/-!
# Bytes

* `utf8` are the bytes of a text. `ofBytes?` is the text that some bytes spell, if they do.
* Where bytes are read, each is taken as the character with its number, `byteChar`. The characters
  of ASCII stand for themselves that way. `byteChars` are the bytes of a text so taken, and
  `ofByteChars?` takes the text back.
-/

namespace Marketplace.Text

/-- The bytes of a text in UTF-8. -/
def utf8 (s : List Char) : List UInt8 := s.flatMap String.utf8EncodeChar

/-- The text of some bytes in UTF-8. -/
def ofBytes? (bytes : List UInt8) : Option (List Char) :=
  (String.fromUTF8? ⟨bytes.toArray⟩).map String.toList

/-- A byte as the character with its number. -/
def byteChar (b : UInt8) : Char := Char.ofNat b.toNat

/-- The bytes of a text, each as a character. -/
def byteChars (s : List Char) : List Char := (utf8 s).map byteChar

/-- The text of some bytes, each given as a character. -/
def ofByteChars? (s : List Char) : Option (List Char) := ofBytes? (s.map Char.toUInt8)

end Marketplace.Text
