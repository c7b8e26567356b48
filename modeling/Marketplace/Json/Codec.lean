import Marketplace.Decimal
import Marketplace.Instant.Text
import Marketplace.Json.Skip

/-!
# Types with a JSON form

A `Codec` writes the values of a type as compact JSON and reads them back.

* Integers, strings, booleans, prices and instants have one codec each; `option` is `null` for
  `none`, and `choice` names the values of an enumeration.
* A price is written as a string, and read from a string, a number, or an object with the one key
  `numberKey` around a price.
* `Codec.encode` and `Codec.decode?` work on whole texts; `Codec.decodeFront?` works on bytes, and
  leaves those behind the value alone.
-/

namespace Marketplace.Json

/-- A type with a JSON form. `missing` stands for a member that an object lacks, if it may. -/
structure Codec (α : Type) where
  write : α → List Char
  read : Reader α
  missing : Option α := none

namespace Codec

variable {α β : Type}

/-- The compact JSON text of a value. -/
def encode (c : Codec α) (a : α) : String := String.ofList (c.write a)

/-- The value at the front of some bytes. -/
def decodeFront? (c : Codec α) (bytes : List UInt8) : Except Fault α :=
  (·.1) <$> c.read (bytes.map Text.byteChar)

/-- The value of a whole text: only space may follow it. -/
def decode? (c : Codec α) (text : String) : Except Fault α :=
  match c.read (Text.byteChars text.toList) with
  | .error e => .error e
  | .ok (a, rest) => if rest.all isSpace then .ok a else .error .malformed

/-! ## Numbers -/

/-- Reads a number that `number` accepts; other kinds of values are faults. -/
def readNumeric (number : Number → Option α) : Reader α := do
  let c ← peekValue
  if c = '-' ∨ c.isDigit then
    match number (← readNumber) with
    | some a => return a
    | none => throw .mismatch
  else wrongKind

/-- The integers of a width. -/
def integral (toInt : α → Int) (ofInt? : Int → Option α) : Codec α where
  write a := Text.integer (toInt a)
  read := readNumeric fun
    | .integer n => ofInt? n
    | .float _ _ => none

def int32 : Codec Int32 := integral Int32.toInt int32?

def int64 : Codec Int64 := integral Int64.toInt int64?

def uint64 : Codec UInt64 := integral (fun n => (n.toNat : Int)) uint64?

/-! ## Text -/

/-- Reads a string that `value` accepts; other kinds of values are faults. -/
def readText (value : List Char → Option α) : Reader α := do
  if (← peekValue) = '"' then do
    skipChar
    match value (← readString) with
    | some a => return a
    | none => throw .mismatch
  else wrongKind

def string : Codec String where
  write s := quoted s.toList
  read := readText fun s => some (String.ofList s)

/-- Instants are strings. -/
def instant : Codec Instant where
  write t := quoted t.stamp
  read := readText Instant.ofText?

/-- The decimal that a number stands for. -/
def priceOfNumber : Number → Decimal
  | .integer n => Decimal.ofInt n
  | .float negative f =>
    if negative then { f.toDecimal with digits := -f.toDecimal.digits } else f.toDecimal

/-- A price as a string or a number. -/
def readPlainPrice : Reader Decimal := do
  if (← peekValue) = '"' then readText Decimal.ofText?
  else readNumeric (some ∘ priceOfNumber)

/-- The key that marks an object as a number, written as it has to stand in the text. -/
def numberKey : List Char := quoted "$serde_json::private::Number".toList

/-- Takes `numberKey` off the front. Whatever else stands there is a mismatch. -/
def readNumberKey : Reader Unit := fun s =>
  let s := s.dropWhile isSpace
  if numberKey.isPrefixOf s then .ok ((), s.drop numberKey.length) else .error .mismatch

/-- A price, which may stand in up to `depth` objects marked as numbers, one inside the other. An
array or object that is nested deeper is malformed, whatever it holds. -/
def readPrice : (depth : Nat) → Reader Decimal
  | 0 => do
    let c ← peekValue
    if c = '{' ∨ c = '[' then throw .malformed else readPlainPrice
  | depth + 1 => do
    if (← peekValue) = '{' then do
      skipChar
      readNumberKey
      readMark ':'
      let d ← readPrice depth
      readMark '}'
      return d
    else readPlainPrice

/-- How many objects may stand around a price inside its record. -/
def priceDepth : Nat := 126

/-- Prices are written as strings. -/
def price : Codec Decimal where
  write d := quoted d.text
  read := readPrice priceDepth

/-! ## Words -/

def bool : Codec Bool where
  write b := if b then ['t', 'r', 'u', 'e'] else ['f', 'a', 'l', 's', 'e']
  read := do
    match ← peekValue with
    | 't' => do readWord ['t', 'r', 'u', 'e']; return true
    | 'f' => do readWord ['f', 'a', 'l', 's', 'e']; return false
    | _ => wrongKind

def null : List Char := ['n', 'u', 'l', 'l']

/-- `null` or a value; a missing member is `null` too. -/
def option (c : Codec α) : Codec (Option α) where
  write
    | none => null
    | some a => c.write a
  read := do
    if (← peekValue) = 'n' then do
      readWord null
      return none
    else some <$> c.read
  missing := some none

/-- One of finitely many values, each with its name: the name as a string, or an object whose only
key it is, with the value `null`. -/
def choice (values : List α) (name : α → String) : Codec α where
  write a := quoted (name a).toList
  read := do
    let named := readText fun s => values.find? fun a => (name a).toList = s
    match ← peekValue with
    | '"' => named
    | '{' => do
      skipChar
      if (← peekValue) ≠ '"' then throw .malformed
      let a ← named
      readMark ':'
      if (← peekValue) = 'n' then readWord null else wrongKind
      readMark '}'
      return a
    | _ => throw .malformed

/-! ## Arrays -/

/-- The values between the brackets of an array. -/
def writeItems (items : List (List Char)) : List Char :=
  '[' :: (items.intersperse [',']).flatten ++ [']']

/-- A list as an array. -/
def writeList (c : Codec α) (as : List α) : List Char := writeItems (as.map c.write)

end Codec

end Marketplace.Json
