import Marketplace.Json.Codec
import Marketplace.Proofs.Decimal
import Marketplace.Proofs.Instant.Text
import Marketplace.Proofs.Json.Number

/-!
# Codecs that read what they write

`Codec.Lawful c norm`: the text of a value is read back from its bytes, in front of whatever may
follow a value, as the normal form `norm` of the value, which has the same text. Only a price has a
normal form of its own, as its text does not always keep its scale; for all other values `norm` is
`id`.

* There is one lemma `lawful_…` for each codec and combinator.
* `Codec.RoundTrips` is what the law says of whole texts (`Lawful.roundTrips`): a value is decoded
  from its text, and decoding and encoding once more changes nothing.
-/

namespace Marketplace.Json

open Text (byteChars)

variable {α : Type} {c : Codec α} {norm : α → α} {a : α} {rest : List Char}

namespace Codec

/-- The codec reads what it writes, up to a normal form that is written alike. -/
structure Lawful (c : Codec α) (norm : α → α) : Prop where
  read_write (a : α) {rest : List Char} (hrest : Stops rest) :
    c.read (byteChars (c.write a) ++ rest) = .ok (norm a, rest)
  write_norm (a : α) : c.write (norm a) = c.write a

/-! ## Readers of one token -/

theorem readText_quoted {value : List Char → Option α} {s : List Char} (h : value s = some a)
    (rest : List Char) : readText value (byteChars (quoted s) ++ rest) = .ok (a, rest) := by
  rw [quoted_append]
  unfold readText
  rw [bind_of_ok (peekValue_cons (by decide) _), if_pos rfl, bind_of_ok (skipChar_cons _ _),
    bind_of_ok (readString_quoted s rest), h]
  rfl

/-- The first character of a number. -/
theorem integer_cons (i : Int) :
    ∃ c s, Text.integer i = c :: s ∧ (c = '-' ∨ c.isDigit) ∧ isSpace c = false := by
  cases i with
  | ofNat n =>
    obtain ⟨c, ds, hcons, hdigit⟩ := natural_cons n
    refine ⟨c, ds, hcons, .inr hdigit, ?_⟩
    simp [isSpace, Text.ne_of_isDigit hdigit (d := ' ') rfl, Text.ne_of_isDigit hdigit (d := '\t') rfl,
      Text.ne_of_isDigit hdigit (d := '\n') rfl, Text.ne_of_isDigit hdigit (d := '\r') rfl]
  | negSucc n => exact ⟨'-', _, rfl, .inl rfl, rfl⟩

theorem readNumeric_integer {number : Number → Option α} {i : Int}
    (hmin : Int64.minValue.toInt ≤ i) (hmax : i < (UInt64.size : Int))
    (h : number (.integer i) = some a) (hrest : Stops rest) :
    readNumeric number (Text.integer i ++ rest) = .ok (a, rest) := by
  obtain ⟨c, s, hcons, hfirst, hspace⟩ := integer_cons i
  have hpeek : peekValue (Text.integer i ++ rest) = .ok (c, Text.integer i ++ rest) := by
    rw [hcons, List.cons_append, peekValue_cons hspace]
  unfold readNumeric
  rw [bind_of_ok hpeek, if_pos hfirst, bind_of_ok (readNumber_integer hmin hmax hrest), h]
  rfl

/-! ## Numbers -/

/-- Integers between `-2 ^ 63` and `2 ^ 64` are read back exactly. -/
theorem lawful_integral {toInt : α → Int} {ofInt? : Int → Option α}
    (hmin : ∀ a, Int64.minValue.toInt ≤ toInt a) (hmax : ∀ a, toInt a < (UInt64.size : Int))
    (h : ∀ a, ofInt? (toInt a) = some a) : (integral toInt ofInt?).Lawful id where
  read_write a rest hrest := by
    change readNumeric _ (byteChars (Text.integer (toInt a)) ++ rest) = _
    rw [byteChars_integer]
    exact readNumeric_integer (hmin a) (hmax a) (h a) hrest
  write_norm _ := rfl

theorem lawful_int32 : int32.Lawful id := by
  refine lawful_integral (fun a => ?_) (fun a => ?_) int32?_toInt
  · exact Int.le_trans (by decide) (Int32.minValue_le_toInt a)
  · exact Int.lt_of_le_of_lt (Int32.toInt_le a) (by decide)

theorem lawful_int64 : int64.Lawful id :=
  lawful_integral Int64.minValue_le_toInt
    (fun a => Int.lt_of_le_of_lt (Int64.toInt_le a) (by decide)) int64?_toInt

theorem lawful_uint64 : uint64.Lawful id := by
  refine lawful_integral (fun a => ?_) (fun a => ?_) uint64?_toNat
  · exact Int.le_trans (by decide) (Int.natCast_nonneg _)
  · exact Int.ofNat_lt.mpr a.toNat_lt_size

/-! ## Text -/

theorem lawful_string : string.Lawful id where
  read_write s rest _ := by
    have hvalue : some (String.ofList s.toList) = some s := congrArg some String.ofList_toList
    change readText (fun s => some (String.ofList s)) (byteChars (quoted s.toList) ++ rest) = _
    rw [readText_quoted hvalue]
    rfl
  write_norm _ := rfl

theorem lawful_instant : instant.Lawful id where
  read_write t _ _ := readText_quoted t.ofText?_stamp _
  write_norm _ := rfl

/-- A string in place of a price is read at once, whatever the depth. -/
theorem readPrice_quoted (depth : Nat) (d : Decimal) (rest : List Char) :
    readPrice depth (byteChars (quoted d.text) ++ rest) = .ok (d.canonical, rest) := by
  have hpeek : peekValue (byteChars (quoted d.text) ++ rest)
      = .ok ('"', byteChars (quoted d.text) ++ rest) := by
    rw [quoted_append, peekValue_cons (by decide)]
  have hplain : readPlainPrice (byteChars (quoted d.text) ++ rest) = .ok (d.canonical, rest) := by
    unfold readPlainPrice
    rw [bind_of_ok hpeek, if_pos rfl, readText_quoted d.ofText?_text]
  cases depth <;>
  · unfold readPrice
    rw [bind_of_ok hpeek, if_neg (by decide), hplain]

theorem lawful_price : price.Lawful Decimal.canonical where
  read_write d _ _ := readPrice_quoted priceDepth d _
  write_norm d := congrArg quoted d.text_canonical

/-! ## Words -/

theorem lawful_bool : bool.Lawful id where
  read_write b _ _ := by cases b <;> rfl
  write_norm _ := rfl

/-- `null` is none of the values of a codec that writes strings. -/
theorem lawful_option (hc : c.Lawful norm) (hquoted : ∀ a, (c.write a).head? = some '"') :
    (option c).Lawful (Option.map norm) where
  read_write a rest hrest := by
    cases a with
    | none => rfl
    | some a =>
      obtain ⟨s, hs⟩ := List.head?_eq_some_iff.mp (hquoted a)
      have hpeek : peekValue (byteChars (c.write a) ++ rest)
          = .ok ('"', byteChars (c.write a) ++ rest) := by
        rw [hs, Text.byteChars_cons (by decide), List.cons_append, peekValue_cons (by decide)]
      change (option c).read (byteChars (c.write a) ++ rest) = _
      unfold option
      dsimp only
      rw [bind_of_ok hpeek, if_neg (by decide)]
      exact map_of_ok (hc.read_write a hrest)
  write_norm a := by
    cases a with
    | none => rfl
    | some a => exact hc.write_norm a

theorem lawful_option_id (hc : c.Lawful id) (hquoted : ∀ a, (c.write a).head? = some '"') :
    (option c).Lawful id := by
  have h := lawful_option hc hquoted
  rwa [Option.map_id] at h

/-- Each value has a name of its own. -/
theorem lawful_choice {values : List α} {name : α → String}
    (h : ∀ a, values.find? (fun b => (name b).toList = (name a).toList) = some a) :
    (choice values name).Lawful id where
  read_write a rest _ := by
    have hpeek : peekValue (byteChars (quoted (name a).toList) ++ rest)
        = .ok ('"', byteChars (quoted (name a).toList) ++ rest) := by
      rw [quoted_append, peekValue_cons (by decide)]
    change (choice values name).read (byteChars (quoted (name a).toList) ++ rest) = _
    unfold choice
    dsimp only
    rw [bind_of_ok hpeek]
    exact readText_quoted (h a) rest
  write_norm _ := rfl

/-! ## Whole texts -/

/-- A text decoded and encoded again. -/
def recode (c : Codec α) (text : String) : Except Fault String := c.encode <$> c.decode? text

/-- Each value is decoded from its text, as a value that is the same in the sense of `Same` and has
the same text. Decoding and encoding an accepted text a second time changes nothing. -/
structure RoundTrips (c : Codec α) (Same : α → α → Prop) : Prop where
  decode?_encode (a : α) :
    ∃ b, c.decode? (c.encode a) = .ok b ∧ Same a b ∧ c.encode b = c.encode a
  recode_recode {text t : String} : c.recode text = .ok t → c.recode t = .ok t

namespace Lawful

theorem decode?_encode (h : c.Lawful norm) (a : α) : c.decode? (c.encode a) = .ok (norm a) := by
  have hread := h.read_write a stops_nil
  rw [List.append_nil] at hread
  simp [decode?, encode, hread]

theorem encode_norm (h : c.Lawful norm) (a : α) : c.encode (norm a) = c.encode a :=
  congrArg String.ofList (h.write_norm a)

/-- What is written is accepted, and written again as it is. -/
theorem recode_encode (h : c.Lawful norm) (a : α) : c.recode (c.encode a) = .ok (c.encode a) := by
  unfold recode
  rw [h.decode?_encode a]
  exact congrArg _ (h.encode_norm a)

theorem roundTrips {Same : α → α → Prop} (h : c.Lawful norm) (hsame : ∀ a, Same a (norm a)) :
    c.RoundTrips Same where
  decode?_encode a := ⟨norm a, h.decode?_encode a, hsame a, h.encode_norm a⟩
  recode_recode {text t} ht := by
    unfold recode at ht
    cases hd : c.decode? text with
    | error e =>
      rw [hd] at ht
      cases ht
    | ok a =>
      rw [hd] at ht
      cases ht
      exact h.recode_encode a

end Lawful

end Codec

end Marketplace.Json
