import Marketplace.Json.Codec

/-!
# Records in JSON

`Members` lists the names and codecs of a record's fields. A record is written as an object with
its fields in that order. It is read from an object with the fields in any order, in which unknown
members are skipped and none may be repeated, or from an array of the fields in their order.

* `Members.read` reads the tuple of the fields.
* `Codec.record` is the codec of a structure whose fields are a tuple of `Members`.
-/

namespace Marketplace.Json

/-- The named fields of a record. `Members α σ` describes the tuple `α` of all fields, and the tuple
`σ` of the fields read so far; both end in `Unit`. -/
inductive Members : Type → Type → Type 1 where
  | nil : Members Unit Unit
  | cons {α β σ : Type} (name : String) (codec : Codec α) (rest : Members β σ) :
      Members (α × β) (Option α × σ)

namespace Members

/-- No field is known. -/
def noFields : {α σ : Type} → Members α σ → σ
  | _, _, .nil => ()
  | _, _, .cons _ _ rest => (none, rest.noFields)

/-- Reads the member `key` behind its key, if the record has it. A repeated member is a mismatch
before its colon is looked at. -/
def fill? : {α σ : Type} → Members α σ → (key : List Char) → σ → Option (Reader σ)
  | _, _, .nil, _, _ => none
  | _, _, .cons name codec rest, key, (known, others) =>
    if name.toList = key then
      some do
        if known.isSome then throw .mismatch
        readMark ':'
        return (some (← codec.read), others)
    else
      (rest.fill? key others).map fun read => do return (known, ← read)

/-- The record of the fields read; a missing member that has to be there is a mismatch. -/
def finish : {α σ : Type} → Members α σ → σ → Except Fault α
  | _, _, .nil, _ => .ok ()
  | _, _, .cons _ codec rest, (known, others) =>
    match known.or codec.missing with
    | none => .error .mismatch
    | some a => (rest.finish others).map fun b => (a, b)

/-- Reads one member behind its opening quote. -/
def readMember {α σ : Type} (m : Members α σ) (known : σ) : Reader σ := do
  match m.fill? (← readString) known with
  | some read => read
  | none => do
    readMark ':'
    skipValue
    return known

/-- The members of an object up to its closing brace, at most `fuel` of them. -/
def readMembers {α σ : Type} (m : Members α σ) : (fuel : Nat) → (isFirst : Bool) → σ → Reader σ
  | 0, _, _ => throw .truncated
  | fuel + 1, isFirst, known => do
    if (← peekValue) = '}' then return known
    else do
      unless isFirst do readMark ','
      readMark '"'
      readMembers m fuel false (← m.readMember known)

/-- The fields from an array, up to its closing bracket. An array that ends early is a
mismatch. -/
def readItems : {α σ : Type} → Members α σ → (isFirst : Bool) → Reader α
  | _, _, .nil, _ => return ()
  | _, _, .cons _ codec rest, isFirst => do
    if (← peekValue) = ']' then throw .mismatch
    unless isFirst do
      readMark ','
      if (← peekValue) = ']' then throw .malformed
    let a ← codec.read
    return (a, ← rest.readItems false)

/-- Reads a record from an object or an array. -/
def read {α σ : Type} (m : Members α σ) : Reader α := do
  match ← peekValue with
  | '{' => do
    skipChar
    let known ← fun s => m.readMembers (s.length + 1) true m.noFields s
    let a ← m.finish known
    readMark '}'
    return a
  | '[' => do
    skipChar
    let a ← m.readItems true
    readMark ']'
    return a
  | _ => wrongKind

/-- The members of an object with their names, in order. -/
def writeMembers : {α σ : Type} → Members α σ → α → List (List Char)
  | _, _, .nil, _ => []
  | _, _, .cons name codec rest, (a, b) =>
    (quoted name.toList ++ ':' :: codec.write a) :: rest.writeMembers b

end Members

/-- The codec of a structure whose fields are those of `m`. -/
def Codec.record {α β σ : Type} (m : Members β σ) (fields : α → β) (make : β → α) : Codec α where
  write a := '{' :: ((m.writeMembers (fields a)).intersperse [',']).flatten ++ ['}']
  read := make <$> m.read

end Marketplace.Json
