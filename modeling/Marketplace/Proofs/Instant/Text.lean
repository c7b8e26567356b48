import Marketplace.Instant.Text
import Marketplace.Proofs.Instant
import Marketplace.Proofs.Instant.Calendar
import Marketplace.Proofs.Text.Integer

/-!
# Reading what was written: instants

Each part of the text of an instant is read back by its scanner, whatever follows it:
`year_yearText` with the sign that a year outside 0 to 9999 has, `field_padded`, and
`fraction_fractionText` for fractions of no, three, six and nine digits. `ofLocal?_parts` puts the
parts together, a leap second included. `ofText?_stamp` is the law.
-/

namespace Marketplace.Instant

open Text

variable {α β : Type} {r : Scanner α} {f : α → Scanner β} {a : α} {c : Char}
  {s t ds rest : List Char} {n width : Nat}

namespace Scanner

/-! ## Steps -/

theorem bind_of_some (h : r s = some (a, t)) : (r >>= f) s = f a t := by
  simp only [bind, StateT.bind, h]
  rfl

@[simp] theorem pure_apply (a : α) (s : List Char) : (pure a : Scanner α) s = some (a, s) := rfl

theorem get_apply (s : List Char) : (get : Scanner (List Char)) s = some (s, s) := rfl

theorem modify_apply (g : List Char → List Char) (s : List Char) :
    (modify g : Scanner PUnit) s = some ((), g s) := rfl

theorem isBlank_of_isDigit (h : c.isDigit) : isBlank c = false := by
  simp only [Char.isDigit, Bool.and_eq_true, decide_eq_true_eq, UInt32.le_iff_toNat_le] at h
  have h48 : '0'.val.toNat = 48 := rfl
  have h57 : '9'.val.toNat = 57 := rfl
  simp only [isBlank, Char.toNat, Bool.or_eq_false_iff, Bool.and_eq_false_iff,
    decide_eq_false_iff_not, beq_eq_false_iff_ne]
  omega

theorem blanks_cons (h : isBlank c = false) (s : List Char) :
    blanks (c :: s) = some ((), c :: s) := by
  change some ((), skipBlanks (c :: s)) = _
  rw [skipBlanks_cons_of_not h]

theorem mark_cons (h : isBlank c = false) (s : List Char) : mark c (c :: s) = some ((), s) := by
  unfold mark
  rw [bind_of_some (blanks_cons h s)]
  change (if c = c then set s else failure : Scanner Unit) (c :: s) = _
  rw [if_pos rfl]
  rfl

theorem digits_append (hne : ds ≠ []) (hds : ∀ c ∈ ds, c.isDigit)
    (h : rest.head?.all (!·.isDigit)) : digits (ds ++ rest) = some (ds, rest) := by
  unfold digits
  rw [bind_of_some (get_apply _)]
  simp only [takeWhile_append hds h]
  rw [if_neg hne, bind_of_some (modify_apply _ _), List.drop_left]
  rfl

/-- A field takes all of its digits, if there are not too many. -/
theorem field_append {most : Nat} (hne : ds ≠ []) (hds : ∀ c ∈ ds, c.isDigit)
    (hlength : ds.length ≤ most) (h : rest.head?.all (!·.isDigit)) :
    field most (ds ++ rest) = some (digitsValue ds, rest) := by
  obtain ⟨c, ds', rfl⟩ := List.exists_cons_of_ne_nil hne
  have hblank := isBlank_of_isDigit (hds c List.mem_cons_self)
  unfold field
  rw [List.cons_append, bind_of_some (blanks_cons hblank _), bind_of_some (get_apply _),
    ← List.cons_append]
  simp only [takeWhile_append hds h, List.take_of_length_le hlength]
  rw [if_neg hne, bind_of_some (modify_apply _ _), List.drop_left]
  rfl

theorem field_padded (hwidth : 0 < width) (hn : n < 10 ^ width)
    (h : rest.head?.all (!·.isDigit)) : field width (padded width n ++ rest) = some (n, rest) := by
  have hlength : (padded width n).length ≤ width := Nat.le_of_eq (length_padded hwidth hn)
  rw [field_append (padded_ne_nil width n) (fun _ => isDigit_of_mem_padded) hlength h,
    digitsValue_padded]

/-! ## Parts -/

/-- A year with a sign has any number of digits. -/
theorem year_minus (s : List Char) :
    year ('-' :: s) = (do return -(digitsValue (← digits) : Int) : Scanner Int) s := by
  unfold year
  rw [bind_of_some (blanks_cons (by decide) _), bind_of_some (get_apply _)]
  rfl

theorem year_plus (s : List Char) :
    year ('+' :: s) = (do return (digitsValue (← digits) : Int) : Scanner Int) s := by
  unfold year
  rw [bind_of_some (blanks_cons (by decide) _), bind_of_some (get_apply _)]
  rfl

/-- A year without a sign has up to four. -/
theorem year_of_isDigit (h : c.isDigit) (s : List Char) :
    year (c :: s) = (do return ((← field 4 : Nat) : Int) : Scanner Int) (c :: s) := by
  unfold year
  rw [bind_of_some (blanks_cons (isBlank_of_isDigit h) _), bind_of_some (get_apply _)]
  refine congrFun ?_ _
  split
  · rename_i heq
    obtain ⟨rfl, -⟩ := List.cons.inj heq
    cases h
  · rename_i heq
    obtain ⟨rfl, -⟩ := List.cons.inj heq
    cases h
  · rfl

theorem year_yearText (y : Int) (rest : List Char) :
    year (yearText y ++ '-' :: rest) = some (y, '-' :: rest) := by
  have hminus : ('-' :: rest).head?.all (!·.isDigit) := rfl
  have hdigits (n : Nat) : digits (padded 4 n ++ '-' :: rest) = some (padded 4 n, '-' :: rest) :=
    digits_append (padded_ne_nil 4 n) (fun _ => isDigit_of_mem_padded) hminus
  unfold yearText
  split
  · rename_i hplain
    have hn : y.toNat < 10 ^ 4 := by omega
    have hfield := field_padded (by decide) hn hminus
    obtain ⟨c, ds, hcons⟩ := List.exists_cons_of_ne_nil (padded_ne_nil 4 y.toNat)
    have hdigit : c.isDigit := isDigit_of_mem_padded (hcons ▸ List.mem_cons_self)
    rw [hcons, List.cons_append] at hfield ⊢
    rw [year_of_isDigit hdigit, bind_of_some hfield, pure_apply, Int.toNat_of_nonneg hplain.1]
  · split
    · rename_i hneg
      have hvalue : -(y.natAbs : Int) = y := by omega
      rw [List.cons_append, year_minus, bind_of_some (hdigits _), digitsValue_padded, pure_apply,
        hvalue]
    · rename_i hpos
      have hvalue : (y.natAbs : Int) = y := by omega
      rw [List.cons_append, year_plus, bind_of_some (hdigits _), digitsValue_padded, pure_apply,
        hvalue]

/-- Some digits behind a point, the last ones of nine left out if they are zeros. -/
theorem fraction_padded {k v : Nat} (hk : 0 < k) (hk' : k ≤ 9) (hv : v < 10 ^ k) :
    fraction ('.' :: padded k v ++ ['Z']) = some (v * 10 ^ (9 - k), ['Z']) := by
  have hdigits : digits (padded k v ++ ['Z']) = some (padded k v, ['Z']) :=
    digits_append (padded_ne_nil k v) (fun _ => isDigit_of_mem_padded) rfl
  have hlength := length_padded hk hv
  have hstep : fraction ('.' :: (padded k v ++ ['Z'])) =
      (do let ds := (← digits).take 9; return digitsValue (ds.rightpad 9 '0') : Scanner Nat)
        (padded k v ++ ['Z']) := rfl
  rw [List.cons_append, hstep, bind_of_some hdigits, pure_apply,
    List.take_of_length_le (by omega), List.rightpad, hlength, digitsValue_append_zeros,
    digitsValue_padded]

/-- A fraction is read back in nanoseconds. -/
theorem fraction_fractionText (hn : n < 1000000000) :
    fraction (fractionText n ++ ['Z']) = some (n, ['Z']) := by
  unfold fractionText
  split
  · rename_i hzero
    rw [hzero]
    rfl
  · split
    · rename_i hmilli
      rw [fraction_padded (by decide) (by decide) (by omega)]
      congr 2
      omega
    · split
      · rename_i hmicro
        rw [fraction_padded (by decide) (by decide) (by omega)]
        congr 2
        omega
      · rw [fraction_padded (by decide) (by decide) (by omega)]
        congr 2
        omega

theorem separator_cons (s : List Char) : separator ('T' :: s) = some ((), s) := rfl

/-- The seconds end before a fraction, or before the zone. -/
theorem head?_fractionText (n : Nat) : (fractionText n ++ ['Z']).head?.all (!·.isDigit) := by
  unfold fractionText
  split
  · rfl
  · split
    · rfl
    · split <;> rfl

theorem zone_utc : zone ['Z'] = some (0, []) := rfl

end Scanner

open Scanner

/-- The parts of a date and a time, one after the other. -/
theorem scan_parts {d : Date} {hour minute second nanos : Nat} {t : Instant}
    (hmonth : d.month < 10 ^ 2) (hday : d.day < 10 ^ 2) (hhour : hour < 10 ^ 2) (hminute : minute < 10 ^ 2)
    (hsecond : second < 10 ^ 2) (hnanos : nanos < 1000000000)
    (ht : ofLocal? d hour minute second nanos 0 = some t) :
    scan (dateText d ++ 'T' :: (padded 2 hour ++ ':' :: padded 2 minute ++ ':' :: padded 2 second
      ++ fractionText nanos ++ ['Z'])) = some (t, []) := by
  simp only [dateText, List.append_assoc, List.cons_append]
  unfold scan
  rw [bind_of_some (year_yearText _ _), bind_of_some (mark_cons (by decide) _),
    bind_of_some (field_padded (by decide) hmonth rfl), bind_of_some (mark_cons (by decide) _),
    bind_of_some (field_padded (by decide) hday rfl), bind_of_some (separator_cons _),
    bind_of_some (field_padded (by decide) hhour rfl), bind_of_some (mark_cons (by decide) _),
    bind_of_some (field_padded (by decide) hminute rfl), bind_of_some (mark_cons (by decide) _),
    bind_of_some (field_padded (by decide) hsecond (head?_fractionText nanos)),
    bind_of_some (fraction_fractionText hnanos), bind_of_some (blanks_cons (by decide) _),
    bind_of_some zone_utc, ht]
  rfl

theorem secondOfDay_lt (t : Instant) : t.secondOfDay < 86400 := by
  rw [secondOfDay]
  omega

theorem subsecond_lt (t : Instant) : t.subsecond < 1000000000 := Nat.mod_lt _ (by decide)

/-- The second of the minute as it is written: the leap second behind second 59 is 60. -/
def shownSecond (t : Instant) : Nat :=
  if t.isLeap then t.secondOfDay % 60 + 1 else t.secondOfDay % 60

/-- A leap second is shown as second 60, and nothing else is. -/
theorem shownSecond_cases (t : Instant) :
    (t.shownSecond = 60 ∧ t.secondOfDay % 60 = 59 ∧ t.nanos = 1000000000 + t.subsecond) ∨
      (t.shownSecond = t.secondOfDay % 60 ∧ t.nanos = t.subsecond) := by
  have hlt := t.nanos_lt
  unfold shownSecond
  by_cases hleap : 1000000000 ≤ t.nanos
  · have hend := t.leap_at_minute_end hleap
    have hminute : t.secondOfDay % 60 = 59 := by
      rw [secondOfDay]
      omega
    rw [if_pos (by simpa [isLeap] using hleap), hminute]
    exact .inl ⟨rfl, rfl, by rw [subsecond]; omega⟩
  · rw [if_neg (by simpa [isLeap] using hleap)]
    exact .inr ⟨rfl, by rw [subsecond]; omega⟩

/-- The parts of an instant make it up again, a leap second included. -/
theorem ofLocal?_parts (t : Instant) :
    ofLocal? t.date (t.secondOfDay / 3600) (t.secondOfDay / 60 % 60) t.shownSecond t.subsecond 0
      = some t := by
  have hvalid := Date.isValid_ofDayNumber (t.seconds / 86400)
  have hday := Date.dayNumber_ofDayNumber (t.seconds / 86400)
  have hge := t.seconds_ge
  have hle := t.seconds_le
  have hlt := t.secondOfDay_lt
  have hyears := Date.year_bounds hvalid (by omega) (by omega)
  have hof : (t.secondOfDay : Int) = t.seconds % 86400 :=
    Int.toNat_of_nonneg (Int.emod_nonneg _ (by decide))
  have hshown := t.shownSecond_cases
  unfold ofLocal?
  rw [if_pos ⟨hvalid, hyears.1, hyears.2, by omega, by omega, by omega⟩]
  simp only [date, hday]
  rw [ofParts?_eq_some_iff]
  constructor
  · rcases hshown with ⟨h60, h59, -⟩ | ⟨hs, -⟩ <;> omega
  · rcases hshown with ⟨h60, -, hnanos⟩ | ⟨hs, hnanos⟩
    · rw [if_pos h60, hnanos]
    · rw [if_neg (by omega), hnanos]

/-- **Instants.** The text of an instant is read back as the instant. -/
theorem ofText?_stamp (t : Instant) : ofText? t.stamp = some t := by
  obtain ⟨-, hmonth, -, hday⟩ : t.date.IsValid := Date.isValid_ofDayNumber _
  have hlength := Date.monthLength_le t.date.year t.date.month
  have hlt := t.secondOfDay_lt
  have hshown := t.shownSecond_cases
  have hscan := scan_parts (by omega) (by omega) (by omega) (by omega) (by omega) t.subsecond_lt
    t.ofLocal?_parts
  have htext : t.stamp = dateText t.date ++ 'T' :: (padded 2 (t.secondOfDay / 3600) ++
      ':' :: padded 2 (t.secondOfDay / 60 % 60) ++ ':' :: padded 2 t.shownSecond
      ++ fractionText t.subsecond ++ ['Z']) := by
    simp [stamp, timeText, shownSecond]
  unfold ofText?
  rw [htext, hscan]
  rfl

end Marketplace.Instant
