/-!
# Reading JSON from the left

A `Reader` takes a value off the front of a text, or fails with the first fault it meets from left
to right. The text comes as bytes, each as the character with its number, and need not be UTF-8.
Space, tab, line feed and carriage return may stand between the tokens.

* `Fault` tells a text that is not JSON from one that ends too early and from one that holds
  another kind of value.
* `readSpace`, `readMark`, `readWord`: the tokens that all values share.
-/

namespace Marketplace.Json

/-- Why a text is not the value that was asked for. -/
inductive Fault where
  /-- The text breaks a rule of JSON. -/
  | malformed
  /-- The text ends inside a value. -/
  | truncated
  /-- A value of another kind, or out of bounds. -/
  | mismatch
  deriving DecidableEq, Repr

/-- Takes a value off the front of a text. -/
abbrev Reader := StateT (List Char) (Except Fault)

def isSpace (c : Char) : Bool := c = ' ' || c = '\t' || c = '\n' || c = '\r'

/-- Skips the space in front of a token. -/
def readSpace : Reader Unit := fun s => .ok ((), s.dropWhile isSpace)

/-- The next character, which stays in the text. -/
def peek : Reader (Option Char) := fun s => .ok (s.head?, s)

/-- Skips one character. -/
def skipChar : Reader Unit := fun s => .ok ((), s.drop 1)

/-- The next character. -/
def readChar : Reader Char
  | [] => .error .truncated
  | c :: s => .ok (c, s)

/-- This character behind optional space. -/
def readMark (mark : Char) : Reader Unit := do
  readSpace
  if (← readChar) ≠ mark then throw .malformed

/-- The characters of a word such as `null`. -/
def readWord : List Char → Reader Unit
  | [] => pure ()
  | c :: word => do
    if (← readChar) ≠ c then throw .malformed
    readWord word

/-- The first character of a value, behind optional space. -/
def peekValue : Reader Char := do
  readSpace
  match ← peek with
  | some c => return c
  | none => throw .truncated

end Marketplace.Json
