import Marketplace.Text.Bytes
import Marketplace.Text.Integer

/-!
# Percent escapes

In an address a byte may be written as a percent sign and two hexadecimal digits.

* `unescapedBytes` are the bytes that a text stands for.
* `unescape?` is the text that they spell, if they do.
-/

namespace Marketplace.Text

/-- The bytes of a text without its escapes; a percent sign without two hexadecimal digits stands
for itself. -/
def unescapedBytes : List Char → List UInt8
  | '%' :: a :: b :: s =>
    match hexValue? a, hexValue? b with
    | some high, some low => (high * 16 + low).toUInt8 :: unescapedBytes s
    | _, _ => '%'.toUInt8 :: unescapedBytes (a :: b :: s)
  | c :: s => utf8 [c] ++ unescapedBytes s
  | [] => []
termination_by s => s.length

/-- A text without its escapes, if that is text. -/
def unescape? (s : List Char) : Option (List Char) := ofBytes? (unescapedBytes s)

end Marketplace.Text
