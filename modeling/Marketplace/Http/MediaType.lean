/-!
# Media types

`isJson` tells whether a `content-type` announces JSON: a well-formed media type `application/json`
or `application/…+json`, in any case, with any parameters.
-/

namespace Marketplace.Http

/-- The characters of a name in a media type. -/
def isTokenChar (c : Char) : Bool :=
  c.isAlphanum || "!#$%&'*+-.^_`|~".toList.contains c

/-- The characters that may stand between quotes. -/
def isQuotable (c : Char) : Bool := 31 < c.toNat && c.toNat ≠ 127

/-- What follows a quoted value, behind its opening quote. A quote that is the first character
belongs to the value. -/
def afterQuoted? : List Char → Option (List Char)
  | [] => none
  | c :: s =>
    if ¬ isQuotable c then none
    else
      match s.dropWhile fun c => isQuotable c ∧ c ≠ '"' with
      | '"' :: rest => some (rest.dropWhile (· = ' '))
      | _ => none

/-- What follows the value of a parameter: another parameter behind a semicolon, or nothing. An
empty value can only be the last one. -/
def afterValue? : List Char → Option (List Char)
  | '"' :: s =>
    match afterQuoted? s with
    | some [] => some []
    | some (';' :: rest) => some rest
    | _ => none
  | s =>
    match s.dropWhile isTokenChar with
    | [] => some []
    | ';' :: rest => if s.head? = some ';' then none else some rest
    | _ => none

/-- Whether a text is a list of parameters, each `name=value`, spaces allowed in front. -/
def areParameters : (fuel : Nat) → List Char → Bool
  | 0, _ => false
  | fuel + 1, s =>
    match s.dropWhile (· = ' ') with
    | [] => true
    | s =>
      match s.takeWhile isTokenChar, s.dropWhile isTokenChar with
      | [], _ => false
      | _, '=' :: value =>
        match afterValue? value with
        | some rest => areParameters fuel rest
        | none => false
      | _, _ => false

/-- A media type without its parameters; the suffix is what follows the last plus sign. -/
structure MediaType where
  type : List Char
  subtype : List Char
  suffix : Option (List Char)

/-- The subtype up to its last plus sign, unless that is the first character, and the suffix. -/
def splitSuffix (s : List Char) : List Char × Option (List Char) :=
  let suffix := (s.reverse.takeWhile (· ≠ '+')).reverse
  let front := s.take (s.length - suffix.length - 1)
  if front ≠ [] ∧ suffix.length < s.length then (front, some suffix) else (s, none)

/-- A media type from its text, in lower case. -/
def MediaType.ofText? (text : List Char) : Option MediaType :=
  let s := text.map Char.toLower
  match s.takeWhile isTokenChar, s.dropWhile isTokenChar with
  | [], _ => none
  | type, '/' :: s =>
    let name := s.takeWhile isTokenChar
    let (subtype, suffix) := splitSuffix name
    match s.dropWhile isTokenChar with
    | [] => some ⟨type, subtype, suffix⟩
    | ';' :: parameters =>
      if name ≠ [] ∧ areParameters (parameters.length + 1) parameters then
        some ⟨type, subtype, suffix⟩
      else none
    | _ => none
  | _, _ => none

/-- Whether a media type stands for JSON. -/
def MediaType.isJson (m : MediaType) : Bool :=
  let json := ['j', 's', 'o', 'n']
  m.type = "application".toList && (m.subtype = json || m.suffix = some json)

/-- Whether a `content-type` announces JSON. -/
def isJson (text : List Char) : Bool := (MediaType.ofText? text).any MediaType.isJson

end Marketplace.Http
