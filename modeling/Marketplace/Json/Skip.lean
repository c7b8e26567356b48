import Marketplace.Json.Number
import Marketplace.Json.Text

/-!
# Values that are not looked at

* `skipValue` passes over a value of any kind, however deep it is nested.
* `wrongKind` is the fault of a value that is there in place of another one. A word, number or
  string is read to its end first, so that a fault inside it wins.
-/

namespace Marketplace.Json

/-- An array or object that is still open. -/
inductive Bracket where
  | array
  | object
  deriving DecidableEq

/-- The character that ends it. -/
def Bracket.closer : Bracket → Char
  | .array => ']'
  | .object => '}'

/-- Passes over the key of an object's value. -/
def skipKey : Reader Unit := do
  readMark '"'
  skipString
  readMark ':'

/-- Passes over a value that is neither array nor object. -/
def skipScalar (first : Char) : Reader Unit :=
  if first = '"' then do
    skipChar
    skipString
  else if first = '-' ∨ first.isDigit then skipNumber
  else if first = 'n' then readWord ['n', 'u', 'l', 'l']
  else if first = 't' then readWord ['t', 'r', 'u', 'e']
  else if first = 'f' then readWord ['f', 'a', 'l', 's', 'e']
  else throw .malformed

/-- Where `skipWithin` is: at a value, or behind one or behind an opening bracket. -/
inductive SkipPoint where
  | value
  | opened
  | behind

/-- Passes over the rest of a value inside the brackets `open`, in at most `fuel` steps. -/
def skipWithin : (fuel : Nat) → List Bracket → SkipPoint → Reader Unit
  | 0, _, _ => throw .truncated
  | fuel + 1, outer, .value => do
    match ← peekValue with
    | '[' => do
      skipChar
      skipWithin fuel (.array :: outer) .opened
    | '{' => do
      skipChar
      skipWithin fuel (.object :: outer) .opened
    | c => do
      skipScalar c
      skipWithin fuel outer .behind
  | _ + 1, [], _ => return ()
  | fuel + 1, b :: outer, .opened => do
    if (← peekValue) = b.closer then do
      skipChar
      skipWithin fuel outer .behind
    else do
      if b = .object then skipKey
      skipWithin fuel (b :: outer) .value
  | fuel + 1, b :: outer, .behind => do
    let c ← peekValue
    skipChar
    if c = b.closer then skipWithin fuel outer .behind
    else if c = ',' then do
      if b = .object then skipKey
      skipWithin fuel (b :: outer) .value
    else throw .malformed

/-- Passes over a value. -/
def skipValue : Reader Unit := fun s => skipWithin (2 * s.length + 2) [] .value s

/-- The fault of the value in front, where one of another kind has to stand. -/
def wrongKind {α : Type} : Reader α := do
  let c ← peekValue
  if c = '"' then do
    skipChar
    discard readString
  else if c = '-' ∨ c.isDigit then discard readNumber
  else if c = 'n' then readWord ['n', 'u', 'l', 'l']
  else if c = 't' then readWord ['t', 'r', 'u', 'e']
  else if c = 'f' then readWord ['f', 'a', 'l', 's', 'e']
  else if c ≠ '[' ∧ c ≠ '{' then throw .malformed
  throw .mismatch

end Marketplace.Json
