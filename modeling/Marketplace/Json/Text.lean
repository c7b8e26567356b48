import Marketplace.Json.Reader
import Marketplace.Text.Bytes
import Marketplace.Text.Integer

/-!
# JSON strings

* `quoted` writes a string. It escapes the quote, the backslash and the characters below U+0020.
* `readString` reads one, with every escape of JSON; an escape of half a surrogate pair is no
  character. The bytes have to spell a text, which is looked at behind the closing quote.
* `skipString` passes over a string of which nothing is kept, halves of pairs and bytes that are no
  text included.

Both readers start behind the opening quote.
-/

namespace Marketplace.Json

/-! ## Writing -/

/-- A lower-case hexadecimal digit. -/
def hexDigit (n : Nat) : Char := Nat.digitChar n

/-- One character of a string, escaped where it has to be. -/
def escaped (c : Char) : List Char :=
  match c with
  | '"' => ['\\', '"']
  | '\\' => ['\\', '\\']
  | '\x08' => ['\\', 'b']
  | '\x0c' => ['\\', 'f']
  | '\n' => ['\\', 'n']
  | '\r' => ['\\', 'r']
  | '\t' => ['\\', 't']
  | c =>
    if c.toNat < 0x20 then ['\\', 'u', '0', '0', hexDigit (c.toNat / 16), hexDigit (c.toNat % 16)]
    else [c]

/-- A string between quotes. -/
def quoted (s : List Char) : List Char := '"' :: s.flatMap escaped ++ ['"']

/-! ## Escapes -/

/-- The number of four hexadecimal digits. The text is truncated when fewer than four bytes are
left of it. -/
def readHex : Reader Nat
  | a :: b :: c :: d :: s =>
    match Text.hexValue? a, Text.hexValue? b, Text.hexValue? c, Text.hexValue? d with
    | some a, some b, some c, some d => .ok (((a * 16 + b) * 16 + c) * 16 + d, s)
    | _, _, _, _ => .error .malformed
  | _ => .error .truncated

def isHighSurrogate (n : Nat) : Bool := 0xD800 ≤ n ∧ n ≤ 0xDBFF

def isLowSurrogate (n : Nat) : Bool := 0xDC00 ≤ n ∧ n ≤ 0xDFFF

/-- The character of a surrogate pair. -/
def pairedChar (high low : Nat) : Char :=
  Char.ofNat (0x10000 + (high - 0xD800) * 0x400 + (low - 0xDC00))

/-- The character of a hexadecimal escape, behind its `u`. -/
def readUnicode : Reader Char := do
  let n ← readHex
  if isLowSurrogate n then throw .malformed
  if isHighSurrogate n then
    if (← readChar) ≠ '\\' then throw .malformed
    if (← readChar) ≠ 'u' then throw .malformed
    let low ← readHex
    if isLowSurrogate low then return pairedChar n low else throw .malformed
  else return Char.ofNat n

/-- The character that a letter behind a backslash stands for. -/
def simpleEscape? : Char → Option Char
  | '"' => some '"'
  | '\\' => some '\\'
  | '/' => some '/'
  | 'b' => some '\x08'
  | 'f' => some '\x0c'
  | 'n' => some '\n'
  | 'r' => some '\r'
  | 't' => some '\t'
  | _ => none

/-- The character of an escape, behind its backslash. -/
def readEscape : Reader Char := do
  let c ← readChar
  if c = 'u' then readUnicode
  else
    match simpleEscape? c with
    | some c => return c
    | none => throw .malformed

/-- Passes over an escape, behind its backslash. -/
def skipEscape : Reader Unit := do
  let c ← readChar
  if c = 'u' then discard readHex
  else if (simpleEscape? c).isNone then throw .malformed

/-! ## Reading -/

/-- The bytes up to the closing quote, for a text of at most `fuel` bytes. -/
def readChars : (fuel : Nat) → Reader (List Char)
  | 0 => throw .truncated
  | fuel + 1 => do
    let c ← readChar
    if c = '"' then return []
    else if c = '\\' then do
      let c ← readEscape
      return Text.byteChars [c] ++ (← readChars fuel)
    else if c.toNat < 0x20 then throw .malformed
    else return c :: (← readChars fuel)

/-- The string up to the closing quote. -/
def readString : Reader (List Char) := do
  match Text.ofByteChars? (← fun s => readChars (s.length + 1) s) with
  | some s => return s
  | none => throw .malformed

/-- `skipString` for a text of at most `fuel` bytes. -/
def skipChars : (fuel : Nat) → Reader Unit
  | 0 => throw .truncated
  | fuel + 1 => do
    let c ← readChar
    if c = '"' then return ()
    else if c = '\\' then do
      skipEscape
      skipChars fuel
    else if c.toNat < 0x20 then throw .malformed
    else skipChars fuel

/-- Passes over a string up to its closing quote. -/
def skipString : Reader Unit := fun s => skipChars (s.length + 1) s

end Marketplace.Json
