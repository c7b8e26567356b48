import Marketplace.Text.Integer
import Marketplace.Text.Pieces

/-!
# Addresses of the Internet Protocol

`isIpAddress` tells whether a text is an address in the dotted form of version 4 or in the form of
version 6, in which one run of zero groups may be left out and the last two groups may be written
in the form of version 4.
-/

namespace Marketplace.Launch

/-- A number from 0 to 255 without leading zeros. -/
def isOctet (s : List Char) : Bool :=
  match Text.natural? s with
  | some n => n ≤ 255 && (s.length = 1 || s.head? ≠ some '0')
  | none => false

/-- Four octets with dots between them. -/
def isIpv4 (s : List Char) : Bool :=
  let octets := Text.pieces '.' s
  octets.length = 4 && octets.all isOctet

/-- One to four hexadecimal digits. -/
def isGroup (s : List Char) : Bool :=
  1 ≤ s.length && s.length ≤ 4 && s.all fun c => (Text.hexValue? c).isSome

/-- How many groups some pieces stand for; the last one may stand for two. -/
def groupCount? : List (List Char) → Option Nat
  | [] => some 0
  | [s] => if isGroup s then some 1 else if isIpv4 s then some 2 else none
  | s :: rest => if isGroup s then (groupCount? rest).map (· + 1) else none

/-- The pieces between colons; an empty text has none. -/
def groups (s : List Char) : List (List Char) := if s = [] then [] else Text.pieces ':' s

/-- The texts before and behind the first double colon. -/
def cutDoubleColon? : List Char → Option (List Char × List Char)
  | ':' :: ':' :: s => some ([], s)
  | c :: s => (cutDoubleColon? s).map fun p => (c :: p.1, p.2)
  | [] => none

/-- Eight groups, or fewer with a double colon for those that are left out. -/
def isIpv6 (s : List Char) : Bool :=
  match cutDoubleColon? s with
  | none => groupCount? (groups s) = some 8
  | some (front, back) =>
    let front := groups front
    front.all isGroup
      && (groupCount? (groups back)).any fun n => front.length + n ≤ 7

/-- Whether a text is an address of either version. -/
def isIpAddress (s : List Char) : Bool := isIpv4 s || isIpv6 s

end Marketplace.Launch
