/-!
# Instants

An `Instant` is a moment of Coordinated Universal Time: seconds since the start of 1970 and
nanoseconds within the second. A leap second has no count of its own: it is the second 59 of its
minute with nanoseconds from one billion on.

* `Instant.ofParts?` checks the bounds.
* `<` and `≤` compare the seconds first, so a leap second comes after the second it extends.
* `Instant.plusSeconds?` and `Instant.plusDays?` add seconds and days of 86400 seconds.
* `Instant.toMicros` and `Instant.ofMicros?` count microseconds from the start of 2000.
-/

namespace Marketplace

/-- A moment between the years -262143 and 262142. -/
structure Instant where
  seconds : Int
  nanos : Nat
  seconds_ge : -8334601228800 ≤ seconds
  seconds_le : seconds ≤ 8210266876799
  nanos_lt : nanos < 2000000000
  leap_at_minute_end : 1000000000 ≤ nanos → seconds % 60 = 59
  deriving DecidableEq, Repr

namespace Instant

theorem ext {a b : Instant} (hs : a.seconds = b.seconds) (hn : a.nanos = b.nanos) : a = b := by
  cases a; cases b; simp_all

/-- The instant with these parts, if they are in bounds. -/
def ofParts? (seconds : Int) (nanos : Nat) : Option Instant :=
  if h : -8334601228800 ≤ seconds ∧ seconds ≤ 8210266876799 ∧ nanos < 2000000000
      ∧ (1000000000 ≤ nanos → seconds % 60 = 59) then
    some ⟨seconds, nanos, h.1, h.2.1, h.2.2.1, h.2.2.2⟩
  else none

@[simp] theorem ofParts?_parts (t : Instant) : ofParts? t.seconds t.nanos = some t :=
  dif_pos ⟨t.seconds_ge, t.seconds_le, t.nanos_lt, t.leap_at_minute_end⟩

/-- The start of 1970. -/
def epoch : Instant := ⟨0, 0, by decide, by decide, by decide, by decide⟩

/-- Whether the instant lies in a leap second. -/
def isLeap (t : Instant) : Bool := 1000000000 ≤ t.nanos

/-- Nanoseconds since the last full second, within a leap second since its start. -/
def subsecond (t : Instant) : Nat := t.nanos % 1000000000

instance : LT Instant where
  lt a b := a.seconds < b.seconds ∨ (a.seconds = b.seconds ∧ a.nanos < b.nanos)

instance : LE Instant where
  le a b := a.seconds < b.seconds ∨ (a.seconds = b.seconds ∧ a.nanos ≤ b.nanos)

theorem lt_def {a b : Instant} :
    a < b ↔ a.seconds < b.seconds ∨ (a.seconds = b.seconds ∧ a.nanos < b.nanos) := Iff.rfl

theorem le_def {a b : Instant} :
    a ≤ b ↔ a.seconds < b.seconds ∨ (a.seconds = b.seconds ∧ a.nanos ≤ b.nanos) := Iff.rfl

instance (a b : Instant) : Decidable (a < b) := decidable_of_iff _ lt_def.symm

instance (a b : Instant) : Decidable (a ≤ b) := decidable_of_iff _ le_def.symm

theorem not_lt {a b : Instant} : ¬ a < b ↔ b ≤ a := by
  simp only [lt_def, le_def]; omega

theorem le_trans {a b c : Instant} (h : a ≤ b) (h' : b ≤ c) : a ≤ c := by
  simp only [le_def] at h h' ⊢; omega

theorem le_antisymm {a b : Instant} (h : a ≤ b) (h' : b ≤ a) : a = b := by
  simp only [le_def] at h h'; exact ext (by omega) (by omega)

/-- The instant `n` seconds later, or `none` beyond the last one. A step out of a leap second starts
from the second that it extends. -/
def plusSeconds? (t : Instant) (n : Nat) : Option Instant :=
  if n = 0 then some t else ofParts? (t.seconds + n) t.subsecond

/-- The instant `days` days later, or `none` beyond the last one. -/
def plusDays? (t : Instant) (days : Nat) : Option Instant := t.plusSeconds? (86400 * days)

/-! ## Microseconds -/

/-- The seconds from 1970 to 2000. -/
def seconds2000 : Int := 946684800

/-- The microseconds from the start of 2000, cut toward it. A leap second counts as the second
after it. -/
def toMicros (t : Instant) : Int :=
  ((t.seconds - seconds2000) * 1000000000 + t.nanos).tdiv 1000

/-- The instant so many microseconds after the start of 2000. -/
def ofMicros? (micros : Int) : Option Instant :=
  ofParts? (seconds2000 + micros / 1000000) ((micros % 1000000).toNat * 1000)

end Instant

end Marketplace
