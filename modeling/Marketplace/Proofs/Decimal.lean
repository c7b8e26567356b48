import Mathlib.Algebra.Order.Ring.Nat
import Marketplace.Decimal
import Marketplace.Proofs.Text.Integer

/-!
# Reading what was written: prices

The text of a decimal need not keep its scale: a zero has none, and up to fifteen zeros at the end
of an integer are written out. `Decimal.canonical` is the decimal that the text keeps: the same
number (`same_canonical`) with the same text (`text_canonical`).

* `Parts` are the digits, the point and the power of ten that make up an unsigned text;
  `ofText?_parts` reads them.
* `parts_of_written_out` and `parts_of_scaled`: each of the four notations consists of such parts.
* `ofText?_text` is the law: the text of a decimal is read back as its canonical form.
-/

namespace Marketplace.Decimal

open Text

/-- The decimal that the text of a decimal stands for. -/
def canonical (d : Decimal) : Decimal :=
  if d.digits = 0 then ⟨0, 0⟩
  else if -15 ≤ d.scale.toInt ∧ d.scale.toInt ≤ 0 then
    ⟨d.digits * 10 ^ (-d.scale.toInt).toNat, 0⟩
  else d

/-- The sign in front of the digits. -/
def signText (negative : Bool) : List Char := if negative then ['-'] else []

/-- Digits behind a point, if there are any. -/
def pointed (places : List Char) : List Char := if places = [] then [] else '.' :: places

theorem text_of_ne_zero {d : Decimal} (h : d.digits ≠ 0) :
    d.text = signText (d.digits < 0) ++ figures (natural d.digits.natAbs) d.scale.toInt := by
  simp [text, h, signText]

/-! ## Reading the parts -/

variable {s whole places : List Char}

/-- Whether a character begins the power of ten. -/
def isMark (c : Char) : Bool := c = 'e' || c = 'E'

theorem isMark_of_isDigit {c : Char} (h : c.isDigit) : isMark c = false := by
  simp [isMark, ne_of_isDigit h (d := 'e') rfl, ne_of_isDigit h (d := 'E') rfl]

theorem filter_ne_underscore (hs : ∀ c ∈ s, c.isDigit) : s.filter (· ≠ '_') = s :=
  List.filter_eq_self.mpr fun c hc => decide_eq_true (ne_of_isDigit (hs c hc) rfl)

theorem grouped?_of_digits (hne : s ≠ []) (hs : ∀ c ∈ s, c.isDigit) :
    grouped? s = some (digitsValue s) := by
  unfold grouped?
  split
  · exact absurd rfl (ne_of_isDigit (hs _ List.mem_cons_self) rfl)
  · rw [filter_ne_underscore hs, natural?_of_digits hne hs]

/-- Digits behind an optional minus sign are an integer. -/
theorem signed?_grouped? (negative : Bool) (hne : s ≠ []) (hs : ∀ c ∈ s, c.isDigit) :
    signed? grouped? (signText negative ++ s)
      = some (if negative then -(digitsValue s : Int) else digitsValue s) := by
  cases negative with
  | true =>
    have hread := grouped?_of_digits hne hs
    simp [signText, signed?, hread]
  | false =>
    have hread := grouped?_of_digits hne hs
    change signed? grouped? s = _
    unfold signed?
    split
    · cases hs _ List.mem_cons_self
    · cases hs _ List.mem_cons_self
    · rw [hread]
      rfl

theorem eq_minus_of_mem_signText {negative : Bool} {c : Char} (h : c ∈ signText negative) :
    c = '-' := by
  cases negative with
  | true => exact List.mem_singleton.mp h
  | false => cases h

theorem mem_pointed {c : Char} (h : c ∈ pointed places) : c = '.' ∨ c ∈ places := by
  unfold pointed at h
  split at h
  · cases h
  · exact List.mem_cons.mp h

theorem head?_pointed (places : List Char) :
    (pointed places).head?.all fun c => !decide (c ≠ '.') := by
  unfold pointed
  split <;> rfl

theorem drop_pointed (places : List Char) : (pointed places).drop 1 = places := by
  unfold pointed
  split
  · rename_i hnil
    rw [hnil]
    rfl
  · rfl

/-- The characters in front of the point. -/
theorem ne_point_lead (negative : Bool) (hwhole : ∀ c ∈ whole, c.isDigit) :
    ∀ c ∈ signText negative ++ whole, c ≠ '.' := by
  intro c hc
  rcases List.mem_append.mp hc with hc | hc
  · rw [eq_minus_of_mem_signText hc]
    decide
  · exact ne_of_isDigit (hwhole c hc) rfl

/-- The characters in front of the power of ten. -/
theorem not_isMark_mantissa (negative : Bool) (hwhole : ∀ c ∈ whole, c.isDigit)
    (hplaces : ∀ c ∈ places, c.isDigit) :
    ∀ c ∈ signText negative ++ whole ++ pointed places, isMark c = false := by
  intro c hc
  rw [List.mem_append, List.mem_append] at hc
  rcases hc with (hc | hc) | hc
  · rw [eq_minus_of_mem_signText hc]
    rfl
  · exact isMark_of_isDigit (hwhole c hc)
  · rcases mem_pointed hc with rfl | hc
    · rfl
    · exact isMark_of_isDigit (hplaces c hc)

/-- What an unsigned text is made of. -/
structure Parts where
  whole : List Char
  places : List Char
  exponent : List Char
  /-- The power of ten that `exponent` spells. -/
  power : Int
  whole_ne_nil : whole ≠ []
  isDigit_whole : ∀ c ∈ whole, c.isDigit
  isDigit_places : ∀ c ∈ places, c.isDigit
  isMark_exponent : exponent.head?.all isMark
  exponent?_eq : exponent? exponent = some power

namespace Parts

def text (p : Parts) : List Char := p.whole ++ pointed p.places ++ p.exponent

/-- The digits, the point left out. -/
def value (p : Parts) : Nat := digitsValue (p.whole ++ p.places)

def scale (p : Parts) : Int := p.places.length - p.power

end Parts

/-- The parts of a text are read one by one, behind its sign. -/
theorem ofText?_parts (negative : Bool) (p : Parts) :
    ofText? (signText negative ++ p.text) = (int64? p.scale).map fun scale =>
      ⟨if negative then -(p.value : Int) else p.value, scale⟩ := by
  have hmark := fun c hc => congrArg not
    (not_isMark_mantissa negative p.isDigit_whole p.isDigit_places c hc)
  have hstop : p.exponent.head?.all fun c => !!isMark c := by simpa using p.isMark_exponent
  have hmarks : (fun c => decide (¬ (c = 'e' ∨ c = 'E'))) = fun c => !isMark c := by
    funext c
    simp [isMark]
  have hlead := fun c hc => decide_eq_true (ne_point_lead negative p.isDigit_whole c hc)
  have hpoint := head?_pointed p.places
  have hfilter := filter_ne_underscore p.isDigit_places
  have hne : p.whole ++ p.places ≠ [] := List.append_ne_nil_of_left_ne_nil p.whole_ne_nil _
  have hdigits := signed?_grouped? negative hne fun c hc =>
    (List.mem_append.mp hc).elim (p.isDigit_whole c) (p.isDigit_places c)
  rw [← List.append_assoc] at hdigits
  rw [Parts.text, ← List.append_assoc, ← List.append_assoc]
  unfold ofText?
  simp only [hmarks, takeWhile_append hmark hstop, dropWhile_append hmark hstop,
    takeWhile_append hlead hpoint, dropWhile_append hlead hpoint, drop_pointed, hfilter,
    hdigits, p.exponent?_eq, Option.bind_eq_bind, Option.bind_some, Parts.scale, Parts.value]
  exact (Option.map_eq_bind ..).symm

/-! ## The notations -/

theorem exponent?_minus (k : Nat) : exponent? ('E' :: '-' :: natural k) = some (-(k : Int)) := by
  have hread : exponent? ('E' :: '-' :: natural k)
      = (natural? (natural k)).map fun n => -(n : Int) := rfl
  rw [hread, natural?_natural]
  rfl

theorem exponent?_plus (k : Nat) : exponent? ('e' :: '+' :: natural k) = some (k : Int) := by
  have hread : exponent? ('e' :: '+' :: natural k)
      = (natural? (natural k)).map fun n => (n : Int) := rfl
  rw [hread, natural?_natural]
  rfl

variable {n : Nat} {scale : Int} {d : Decimal}

/-- Up to fifteen zeros that end an integer are written out. -/
theorem figures_written_out (h : -15 ≤ scale ∧ scale ≤ 0) :
    figures s scale = s ++ List.replicate (-scale).toNat '0' := by
  rw [figures, if_neg (by omega), if_neg (by omega), if_pos h.2]

theorem parts_of_written_out (n : Nat) (h : -15 ≤ scale ∧ scale ≤ 0) :
    ∃ p : Parts, p.text = figures (natural n) scale ∧ p.value = n * 10 ^ (-scale).toNat ∧
      p.scale = 0 := by
  refine ⟨⟨natural n ++ List.replicate (-scale).toNat '0', [], [], 0, ?_, ?_, ?_, rfl, rfl⟩,
    ?_, ?_, rfl⟩
  · exact List.append_ne_nil_of_left_ne_nil (natural_ne_nil n) _
  · intro c hc
    rcases List.mem_append.mp hc with hc | hc
    · exact isDigit_of_mem_natural hc
    · rw [List.eq_of_mem_replicate hc]
      rfl
  · exact fun c hc => absurd hc List.not_mem_nil
  · rw [figures_written_out h, Parts.text]
    simp [pointed]
  · rw [Parts.value, List.append_nil, digitsValue_append_zeros, digitsValue_natural]

/-- More zeros than that are a power of ten. -/
theorem parts_of_huge (n : Nat) (h : scale < -15) :
    ∃ p : Parts, p.text = figures (natural n) scale ∧ p.value = n ∧ p.scale = scale := by
  refine ⟨⟨natural n, [], 'e' :: '+' :: natural (-scale).toNat, (-scale).toNat,
    natural_ne_nil n, fun _ => isDigit_of_mem_natural, ?_, rfl, exponent?_plus _⟩, ?_, ?_, ?_⟩
  · exact fun c hc => absurd hc List.not_mem_nil
  · rw [figures, if_neg (by omega), if_pos h, Parts.text, pointed]
    simp
  · rw [Parts.value, List.append_nil, digitsValue_natural]
  · simp only [Parts.scale, List.length_nil]
    omega

/-- So are more than five zeros behind the point, and one digit stands in front of it. -/
theorem parts_of_tiny (n : Nat) (h : scale - (natural n).length > 5) :
    ∃ p : Parts, p.text = figures (natural n) scale ∧ p.value = n ∧ p.scale = scale := by
  have hpos : 0 < (natural n).length := List.length_pos_iff.mpr (natural_ne_nil n)
  refine ⟨⟨(natural n).take 1, (natural n).drop 1,
    'E' :: '-' :: natural (scale + 1 - (natural n).length).toNat,
    -(scale + 1 - (natural n).length).toNat, ?_, ?_, ?_, rfl, exponent?_minus _⟩, ?_, ?_, ?_⟩
  · simpa [List.take_eq_nil_iff] using natural_ne_nil n
  · exact fun c hc => isDigit_of_mem_natural (List.mem_of_mem_take hc)
  · exact fun c hc => isDigit_of_mem_natural (List.mem_of_mem_drop hc)
  · have hdrop : (natural n).drop 1 = [] ↔ (natural n).length = 1 := by
      rw [List.drop_eq_nil_iff]
      omega
    rw [figures, if_pos h, Parts.text, pointed]
    simp only [hdrop]
    split <;> simp_all
  · rw [Parts.value, List.take_append_drop, digitsValue_natural]
  · simp only [Parts.scale, List.length_drop]
    omega

/-- In front of the point stands a digit, a zero if need be. -/
theorem parts_of_point (n : Nat) (hpos : 0 < scale) (h : ¬ scale - (natural n).length > 5) :
    ∃ p : Parts, p.text = figures (natural n) scale ∧ p.value = n ∧ p.scale = scale := by
  let ds := List.replicate (scale.toNat + 1 - (natural n).length) '0' ++ natural n
  have hds : ∀ c ∈ ds, c.isDigit := by
    intro c hc
    rcases List.mem_append.mp hc with hc | hc
    · rw [List.eq_of_mem_replicate hc]
      rfl
    · exact isDigit_of_mem_natural hc
  have hlength : scale.toNat < ds.length := by
    rw [List.length_append, List.length_replicate]
    omega
  have hplaces : (ds.drop (ds.length - scale.toNat)).length = scale.toNat := by
    rw [List.length_drop]
    omega
  refine ⟨⟨ds.take (ds.length - scale.toNat), ds.drop (ds.length - scale.toNat), [], 0, ?_,
    fun c hc => hds c (List.mem_of_mem_take hc), fun c hc => hds c (List.mem_of_mem_drop hc), rfl,
    rfl⟩, ?_, ?_, ?_⟩
  · refine List.ne_nil_of_length_pos ?_
    rw [List.length_take]
    omega
  · have hne : ds.drop (ds.length - scale.toNat) ≠ [] := List.ne_nil_of_length_pos (by omega)
    rw [figures, if_neg h, if_neg (by omega), if_neg (by omega), Parts.text, pointed, if_neg hne,
      List.append_nil]
  · rw [Parts.value, List.take_append_drop, digitsValue_zeros, digitsValue_natural]
  · simp only [Parts.scale, hplaces]
    omega

/-- Unless zeros are written out, the scale is kept. -/
theorem parts_of_scaled (n : Nat) (h : ¬ (-15 ≤ scale ∧ scale ≤ 0)) :
    ∃ p : Parts, p.text = figures (natural n) scale ∧ p.value = n ∧ p.scale = scale := by
  by_cases htiny : scale - (natural n).length > 5
  · exact parts_of_tiny n htiny
  · by_cases hhuge : scale < -15
    · exact parts_of_huge n hhuge
    · exact parts_of_point n (by omega) htiny

/-! ## The law -/

theorem canonical_of_written_out (h : d.digits ≠ 0)
    (hscale : -15 ≤ d.scale.toInt ∧ d.scale.toInt ≤ 0) :
    d.canonical = ⟨d.digits * 10 ^ (-d.scale.toInt).toNat, 0⟩ := by
  rw [canonical, if_neg h, if_pos hscale]

theorem canonical_of_scaled (h : d.digits ≠ 0)
    (hscale : ¬ (-15 ≤ d.scale.toInt ∧ d.scale.toInt ≤ 0)) : d.canonical = d := by
  rw [canonical, if_neg h, if_neg hscale]

/-- A sign and an absolute value make up an integer, also with a factor. -/
theorem sign_natAbs_mul (i : Int) (k : Nat) :
    (if i < 0 then -((i.natAbs * k : Nat) : Int) else (i.natAbs * k : Nat)) = i * k := by
  split
  · rw [Int.natCast_mul, ← Int.neg_mul]
    congr 1
    omega
  · rw [Int.natCast_mul]
    congr 1
    omega

/-- **Prices.** The text of a decimal is read back as the canonical form of the decimal. -/
theorem ofText?_text (d : Decimal) : ofText? d.text = some d.canonical := by
  by_cases hzero : d.digits = 0
  · rw [text, if_pos hzero, canonical, if_pos hzero]
    rfl
  · rw [text_of_ne_zero hzero]
    by_cases hscale : -15 ≤ d.scale.toInt ∧ d.scale.toInt ≤ 0
    · obtain ⟨p, htext, hvalue, hp⟩ := parts_of_written_out d.digits.natAbs hscale
      have hsign := sign_natAbs_mul d.digits (10 ^ (-d.scale.toInt).toNat)
      have hint : int64? 0 = some 0 := by decide
      rw [← htext, ofText?_parts, hp, hint, canonical_of_written_out hzero hscale, hvalue]
      simp only [decide_eq_true_eq, Option.map_some, hsign]
      rw [Int.natCast_pow]
      rfl
    · obtain ⟨p, htext, hvalue, hp⟩ := parts_of_scaled d.digits.natAbs hscale
      have hsign := sign_natAbs_mul d.digits 1
      rw [Nat.mul_one, Int.natCast_one, Int.mul_one] at hsign
      rw [← htext, ofText?_parts, hp, canonical_of_scaled hzero hscale, hvalue, int64?_toInt]
      simp only [decide_eq_true_eq, Option.map_some, hsign]

/-- Fifteen thousands come back as an integer. -/
example : ofText? (text ⟨15, -3⟩) = some ⟨15000, 0⟩ := by decide

/-- The canonical form has the same text. -/
theorem text_canonical (d : Decimal) : d.canonical.text = d.text := by
  by_cases hzero : d.digits = 0
  · rw [canonical, if_pos hzero, text, text, if_pos hzero]
    rfl
  · by_cases hscale : -15 ≤ d.scale.toInt ∧ d.scale.toInt ≤ 0
    · have hpow : (0 : Int) < 10 ^ (-d.scale.toInt).toNat := Int.pow_pos (by decide)
      have hne : d.canonical.digits ≠ 0 := by
        rw [canonical_of_written_out hzero hscale]
        exact Int.mul_ne_zero hzero (by omega)
      rw [text_of_ne_zero hne, text_of_ne_zero hzero, canonical_of_written_out hzero hscale]
      have hsign : d.digits * 10 ^ (-d.scale.toInt).toNat < 0 ↔ d.digits < 0 := by
        have h := Int.mul_lt_mul_right (b := d.digits) (c := 0) hpow
        rwa [Int.zero_mul] at h
      have hdigits : (d.digits * 10 ^ (-d.scale.toInt).toNat).natAbs
          = d.digits.natAbs * 10 ^ (-d.scale.toInt).toNat := by
        rw [Int.natAbs_mul, Int.natAbs_pow]
        rfl
      have hzeros : -15 ≤ Int64.toInt 0 ∧ Int64.toInt 0 ≤ 0 := by decide
      simp only [hsign, hdigits, figures_written_out hscale, figures_written_out hzeros,
        natural_mul_ten_pow (Int.natAbs_pos.mpr hzero)]
      exact congrArg _ (List.append_nil _)
    · rw [canonical_of_scaled hzero hscale]

/-- The canonical form is the same number. -/
theorem same_canonical (d : Decimal) : d.Same d.canonical := by
  by_cases hzero : d.digits = 0
  · rw [Same, canonical, if_pos hzero, hzero]
    simp
  · by_cases hscale : -15 ≤ d.scale.toInt ∧ d.scale.toInt ≤ 0
    · have hk : -d.scale.toInt = ((-d.scale.toInt).toNat : Int) := by omega
      rw [Same, canonical_of_written_out hzero hscale]
      dsimp only
      rw [Rat.intCast_mul, Rat.intCast_pow, ← Rat.zpow_natCast, ← hk]
      exact (Rat.mul_one _).symm
    · rw [canonical_of_scaled hzero hscale]
      rfl

end Marketplace.Decimal
