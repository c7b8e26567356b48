import Marketplace.Text.Bytes

/-!
# The bytes of a text

A text is taken back from its bytes (`ofByteChars?_byteChars`). To know how a reader of bytes goes
through a text it is enough to know that the characters of ASCII are their own bytes
(`byteChars_cons`), and that the bytes of the others are none of ASCII
(`le_of_mem_byteChars_singleton`).
-/

namespace Marketplace.Text

variable {c : Char} {s : List Char}

theorem ofBytes?_utf8 (s : List Char) : ofBytes? (utf8 s) = some s := by
  have hbytes : (⟨(utf8 s).toArray⟩ : ByteArray) = s.utf8Encode := by
    apply ByteArray.ext
    apply Array.ext'
    simp [utf8, List.utf8Encode]
  have hvalid : s.utf8Encode.IsValidUTF8 := ⟨s, rfl⟩
  unfold ofBytes?
  rw [hbytes, String.fromUTF8?, dif_pos hvalid, Option.map_some]
  exact congrArg some (String.toList_ofList (l := s))

theorem toNat_byteChar (b : UInt8) : (byteChar b).toNat = b.toNat := by
  have := b.toNat_lt
  have hvalid : b.toNat.isValidChar := .inl (by omega)
  rw [byteChar, Char.ofNat, dif_pos hvalid]
  rfl

@[simp] theorem toUInt8_byteChar (b : UInt8) : (byteChar b).toUInt8 = b := by
  apply UInt8.toNat_inj.mp
  rw [Char.toUInt8, UInt32.toNat_toUInt8]
  exact (congrArg (· % 256) (toNat_byteChar b)).trans (Nat.mod_eq_of_lt b.toNat_lt)

/-- The text is taken back. -/
theorem ofByteChars?_byteChars (s : List Char) : ofByteChars? (byteChars s) = some s := by
  have hbytes : (byteChars s).map Char.toUInt8 = utf8 s := by
    simp [byteChars, Function.comp_def]
  rw [ofByteChars?, hbytes, ofBytes?_utf8]

@[simp] theorem byteChars_nil : byteChars [] = [] := rfl

@[simp] theorem byteChars_append (s t : List Char) :
    byteChars (s ++ t) = byteChars s ++ byteChars t := by
  simp [byteChars, utf8]

@[simp] theorem byteChars_cons (h : c.toNat < 128) (s : List Char) :
    byteChars (c :: s) = c :: byteChars s := by
  have hc : String.utf8EncodeChar c = [c.toNat.toUInt8] := if_pos (Nat.le_of_lt_succ h)
  have hbyte : c.toNat.toUInt8.toNat = c.toNat := Nat.mod_eq_of_lt (by omega)
  simp [byteChars, utf8, hc, byteChar, hbyte]

theorem byteChars_of_ascii (h : ∀ c ∈ s, c.toNat < 128) : byteChars s = s := by
  induction s with
  | nil => rfl
  | cons c s ih =>
    rw [byteChars_cons (h c List.mem_cons_self),
      ih fun d hd => h d (List.mem_cons_of_mem c hd)]

/-- A character beyond ASCII has no byte of ASCII. -/
theorem le_of_mem_byteChars_singleton (h : 128 ≤ c.toNat) : ∀ b ∈ byteChars [c], 128 ≤ b.toNat := by
  have hbytes : ∀ b ∈ String.utf8EncodeChar c, 128 ≤ b.toNat := by
    have hval : c.val.toNat = c.toNat := rfl
    unfold String.utf8EncodeChar
    simp only [hval]
    rw [if_neg (by omega)]
    -- one case for each number of bytes
    split
    · simp
      omega
    split <;>
    · simp
      omega
  intro b hb
  obtain ⟨u, hu, rfl⟩ := List.mem_map.mp hb
  rw [toNat_byteChar]
  exact hbytes u (by simpa [utf8] using hu)

/-- A character has at least one byte. -/
theorem length_le_byteChars (s : List Char) : s.length ≤ (byteChars s).length := by
  induction s with
  | nil => simp
  | cons c s ih =>
    have hpos : 0 < (byteChars [c]).length := by
      simp [byteChars, utf8, String.length_utf8EncodeChar, c.utf8Size_pos]
    have happend : byteChars (c :: s) = byteChars [c] ++ byteChars s := byteChars_append [c] s
    rw [happend, List.length_append, List.length_cons]
    omega

end Marketplace.Text
