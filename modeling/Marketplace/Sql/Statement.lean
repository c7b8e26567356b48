import Marketplace.Decimal
import Marketplace.Instant.Text
import Marketplace.Storage

/-!
# Statements and replies

* `Statement`: a text with its parameters, and `Reply`: what the server sends back.
* `Value.int64` … `Value.instant`: the columns of a row. A null where none may be is a fault.
* `Reply.rows?`, `Reply.first?`, `Reply.affected?`: the three ways in which a reply is read.
-/

namespace Marketplace.Sql

/-- A parameter of a statement. -/
inductive Param where
  | null
  | integer (n : Int)
  | text (s : String)
  /-- Microseconds from the start of 2000. -/
  | time (micros : Int)
  | integers (ns : List Int64)
  deriving DecidableEq, Repr

/-- A statement; `none` for the parameters of one that is sent as plain text. -/
structure Statement where
  sql : String
  params : Option (List Param)
  deriving DecidableEq, Repr

namespace Statement

/-- A statement that is sent as plain text. -/
def plain (sql : String) : Statement := ⟨sql, none⟩

/-- A statement with parameters. -/
def bound (sql : String) (params : List Param) : Statement := ⟨sql, some params⟩

end Statement

/-- A column of a row. -/
inductive Value where
  | null
  | integer (n : Int)
  | boolean (b : Bool)
  | text (s : String)
  /-- Microseconds from the start of 2000. -/
  | time (micros : Int)
  deriving DecidableEq, Repr

/-- What the server sends back for a statement. -/
inductive Reply where
  | rows (rows : List (List Value))
  | affected (n : Nat)
  | nothing
  /-- The statement failed, with the server's message. -/
  | refused (message : String)
  deriving DecidableEq, Repr

/-! ## Columns -/

/-- The fault of a column of another type. -/
def wrongType : StorageFault := .database "a column has another type"

namespace Value

/-- An integer that `width` accepts. -/
def integer? {α : Type} (width : Int → Option α) : Value → Except StorageFault α
  | .null => .error .unexpectedNull
  | .integer n =>
    match width n with
    | some a => .ok a
    | none => .error wrongType
  | _ => .error wrongType

def int16? : Value → Except StorageFault Int16 := integer? Marketplace.int16?

def int32? : Value → Except StorageFault Int32 := integer? Marketplace.int32?

def int64? : Value → Except StorageFault Int64 := integer? Marketplace.int64?

def bool? : Value → Except StorageFault Bool
  | .null => .error .unexpectedNull
  | .boolean b => .ok b
  | _ => .error wrongType

/-- A text that `read` accepts. -/
def text? {α : Type} (read : String → Option α) : Value → Except StorageFault α
  | .null => .error .unexpectedNull
  | .text s =>
    match read s with
    | some a => .ok a
    | none => .error wrongType
  | _ => .error wrongType

def string? : Value → Except StorageFault String := text? some

def price? : Value → Except StorageFault Decimal := text? fun s => Decimal.ofText? s.toList

/-- An instant, as text or as microseconds; digits behind the microseconds are cut. -/
def instant? : Value → Except StorageFault Instant
  | .time micros =>
    match Instant.ofMicros? micros with
    | some t => .ok t
    | none => .error wrongType
  | v => text? (fun s => (Instant.ofText? s.toList).bind fun t => Instant.ofMicros? t.toMicros) v

/-- A column that may be null. -/
def optional? {α : Type} (read : Value → Except StorageFault α) :
    Value → Except StorageFault (Option α)
  | .null => .ok none
  | v => some <$> read v

end Value

/-! ## Replies -/

/-- Reads one row. -/
abbrev RowReader (α : Type) := List Value → Except StorageFault α

/-- A row of one column. -/
def singleColumn {α : Type} (read : Value → Except StorageFault α) : RowReader α
  | [v] => read v
  | _ => .error wrongType

namespace Reply

/-- The rows of a reply, if there are any. -/
def rowList : Reply → List (List Value)
  | rows list => list
  | _ => []

/-- Fails if the statement did. -/
def check : Reply → Except StorageFault Unit
  | refused message => .error (.database message)
  | _ => .ok ()

/-- All rows; the first one that cannot be read is the fault. -/
def rows? {α : Type} (read : RowReader α) (r : Reply) : Except StorageFault (List α) := do
  r.check
  r.rowList.mapM read

/-- The first row, if there is one. -/
def first? {α : Type} (read : RowReader α) (r : Reply) : Except StorageFault (Option α) := do
  r.check
  match r.rowList.head? with
  | some row => some <$> read row
  | none => return none

/-- The first row, which has to be there. -/
def single? {α : Type} (read : RowReader α) (r : Reply) : Except StorageFault α := do
  match ← r.first? read with
  | some a => return a
  | none => throw .recordNotFound

/-- How many rows a write changed. -/
def affected? (r : Reply) : Except StorageFault Nat := do
  r.check
  return match r with
    | affected n => n
    | r => r.rowList.length

end Reply

end Marketplace.Sql
