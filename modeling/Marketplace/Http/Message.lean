import Marketplace.Json.Record

/-!
# Requests and responses

* `Request.header?` is the first header of a name, in any case of its letters.
* `Response.json`, `Response.empty` and `Response.rejection` are the responses that the services
  give; the body of an error is an `ErrorBody`.
-/

namespace Marketplace.Http

open Json

/-- A request as it arrives. -/
structure Request where
  method : String
  /-- The path with query and fragment. -/
  target : String
  /-- Names and values. A value with bytes beyond ASCII has any characters beyond ASCII for them: it
  is not read (`visible?`). -/
  headers : List (String × String)
  /-- Any bytes, of a text or not. -/
  body : List UInt8
  deriving DecidableEq, Repr

/-- Where bytes are sent, a text stands for its bytes. -/
instance coeBytes : Coe String (List UInt8) := ⟨fun text => Text.utf8 text.toList⟩

/-- The characters of a text, with the letters of ASCII in lower case. -/
def lower (s : String) : List Char := s.toList.map Char.toLower

/-- A header value that consists of visible ASCII, spaces and tabs. -/
def visible? (value : String) : Option (List Char) :=
  let s := value.toList
  if s.all fun c => c = '\t' ∨ (32 ≤ c.toNat ∧ c.toNat < 127) then some s else none

/-- The first header of this name, if its value is visible ASCII. -/
def Request.header? (r : Request) (name : String) : Option (List Char) :=
  (r.headers.find? fun h => lower h.1 = lower name).bind fun h => visible? h.2

/-- What a response carries. -/
inductive Body where
  | empty
  | json (text : String)
  | plain (text : String)
  deriving DecidableEq, Repr

/-- The media type that announces a body. -/
def Body.mediaType? : Body → Option String
  | empty => none
  | json _ => some "application/json"
  | plain _ => some "text/plain; charset=utf-8"

/-- A response; its headers have lower-case names. -/
structure Response where
  status : Nat
  headers : List (String × String)
  body : Body
  deriving DecidableEq, Repr

/-- The body of an error. -/
structure ErrorBody where
  error : String
  deriving DecidableEq, Repr

def ErrorBody.codec : Codec ErrorBody :=
  .record (.cons "error" .string .nil) (fun e => (e.error, ())) (fun (error, ()) => ⟨error⟩)

namespace Response

/-- A response with a body and the header that announces it. -/
def withBody (status : Nat) (body : Body) : Response :=
  ⟨status, body.mediaType?.toList.map fun t => ("content-type", t), body⟩

/-- A response without a body. -/
def empty (status : Nat) : Response := withBody status .empty

/-- A value in JSON. -/
def json {α : Type} (status : Nat) (c : Codec α) (a : α) : Response :=
  withBody status (.json (c.encode a))

/-- A list as a JSON array. -/
def jsonList {α : Type} (status : Nat) (c : Codec α) (as : List α) : Response :=
  withBody status (.json (String.ofList (c.writeList as)))

/-- An error in JSON. -/
def error (status : Nat) (message : String) : Response :=
  json status ErrorBody.codec ⟨message⟩

/-- A request that cannot be read. -/
def rejection (status : Nat) (reason : String) : Response := withBody status (.plain reason)

/-- Whether the status is one of success. -/
def IsSuccess (r : Response) : Prop := 200 ≤ r.status ∧ r.status < 300

instance (r : Response) : Decidable r.IsSuccess := inferInstanceAs (Decidable (_ ∧ _))

end Response

end Marketplace.Http
