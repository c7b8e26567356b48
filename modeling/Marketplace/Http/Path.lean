import Marketplace.Text.Percent
import Marketplace.Text.Pieces

/-!
# Paths

* `segments?` splits the path of a request target at its slashes. A target is a path, or an address
  with a scheme and an authority in front of the path.
* `pathInt64?` and `pathUInt64?` read the number that a segment is.
-/

namespace Marketplace.Http

/-- The characters of a scheme. -/
def isSchemeChar (c : Char) : Bool := c.isAlphanum || c = '+' || c = '-' || c = '.'

/-- Whether a character ends what stands in front of a path. -/
def endsAuthority (c : Char) : Bool := c = '/' || c = '?' || c = '#'

/-- A target from its path on: a target that does not start with its path has a scheme, or no path
at all. -/
def fromPath (target : List Char) : List Char :=
  match target with
  | '/' :: _ => target
  | _ =>
    match target.dropWhile isSchemeChar with
    | ':' :: '/' :: '/' :: s => s.dropWhile (¬ endsAuthority ·)
    | _ => []

/-- The segments of the path of a target, without query and fragment. -/
def segments? (target : String) : Option (List (List Char)) :=
  match (fromPath target.toList).takeWhile fun c => c ≠ '?' ∧ c ≠ '#' with
  | '/' :: s => some (Text.pieces '/' s)
  | _ => none

/-- The signed number that a segment is. -/
def pathInt64? (segment : List Char) : Option Int64 :=
  ((Text.unescape? segment).bind Text.integer?).bind int64?

/-- The unsigned number that a segment is. -/
def pathUInt64? (segment : List Char) : Option UInt64 :=
  ((Text.unescape? segment).bind Text.unsigned?).bind fun n => uint64? n

end Marketplace.Http
