import Marketplace.Instant.Text

/-!
# The time between two instants

* `Instant.nanosSince`: the nanoseconds from one instant to another. A leap second has no count of
  its own in the seconds, so it is counted only between different times of day.
* `nanosSince_of_plusDays`: added days are that many times 86400 seconds, and one second less behind
  an instant in a leap second.
-/

namespace Marketplace

namespace Instant

variable {t start : Instant} {days : Nat}

theorem ofParts?_eq_some_iff {seconds : Int} {nanos : Nat} :
    ofParts? seconds nanos = some t ↔ t.seconds = seconds ∧ t.nanos = nanos := by
  constructor
  · intro h
    unfold ofParts? at h
    split at h
    · cases h
      exact ⟨rfl, rfl⟩
    · cases h
  · rintro ⟨rfl, rfl⟩
    exact ofParts?_parts t

theorem le_refl (t : Instant) : t ≤ t := by
  rw [le_def]
  exact .inr ⟨rfl, Nat.le_refl _⟩

theorem le_of_lt (h : start < t) : start ≤ t := by
  rw [lt_def] at h
  rw [le_def]
  omega

/-- The leap second that lies between two times of day: the earlier one is in it. -/
def leapBetween (start t : Instant) : Int :=
  if start.isLeap ∧ start.secondOfDay < t.secondOfDay then 1
  else if t.isLeap ∧ t.secondOfDay < start.secondOfDay then -1
  else 0

/-- The nanoseconds from `start` to `t`. -/
def nanosSince (t start : Instant) : Int :=
  (t.seconds - start.seconds + leapBetween start t) * 1000000000 + (t.nanos - start.nanos)

theorem plusDays?_eq_some_iff (h : 0 < days) : start.plusDays? days = some t ↔
    t.seconds = start.seconds + 86400 * days ∧ t.nanos = start.nanos % 1000000000 := by
  rw [plusDays?, plusSeconds?, if_neg (by omega), ofParts?_eq_some_iff, subsecond]
  simp

/-- Days that are added to an instant in a leap second start from the second that it extends. -/
theorem nanosSince_of_plusDays (h : 0 < days) (hd : start.plusDays? days = some t) :
    t.nanosSince start = days * 86400000000000 - if start.isLeap then 1000000000 else 0 := by
  obtain ⟨hs, hn⟩ := (plusDays?_eq_some_iff h).mp hd
  have hday : t.secondOfDay = start.secondOfDay := by
    rw [secondOfDay, secondOfDay, hs]
    omega
  have hlt := start.nanos_lt
  simp only [nanosSince, leapBetween, hday, hs, hn, Nat.lt_irrefl, and_false, if_false, isLeap,
    decide_eq_true_eq]
  split <;> omega

end Instant

end Marketplace
