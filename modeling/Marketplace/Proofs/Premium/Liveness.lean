import Marketplace.Proofs.Premium.Invariant

/-!
# A product can always be promoted again

* `PremiumState.CanBuy`: a checkout and its payment open a window.
* `canBuy_of_settled`: so they do if no payment is due and the window is over.
* `advance_canceled_of_due`: a payment that is due can be canceled, which settles it.
* `never_stuck`: a run leads to one of the two, in whatever order its instants come.
-/

namespace Marketplace

namespace PremiumState

variable {s : PremiumState} {period : PremiumPeriod} {now expire : Instant}

/-- A checkout of `period` at `now` is accepted, and its payment opens a window up to `expire`. -/
def CanBuy (s : PremiumState) (period : PremiumPeriod) (now expire : Instant) : Prop :=
  ∃ asked, s.advance (.checkout period now) = .ok asked ∧
    asked.advance (.payment .succeeded period now)
      = .ok ⟨.succeeded, some period, some now, some expire⟩

theorem not_isRunning_of_le (ended : ∀ e ∈ s.expire, e ≤ now) : ¬ s.IsRunning now := by
  rintro ⟨e, he, hlt⟩
  exact Instant.not_lt.mpr (ended e he) hlt

theorem canBuy_of_settled (move : s.status.canBecome .pending) (closed : ¬ s.IsRunning now)
    (fits : now.plusDays? period.days = some expire) : s.CanBuy period now expire := by
  have hsettled : s.status ≠ .pending := by
    intro h
    rw [h] at move
    cases move
  refine ⟨{ s with status := .pending, period := some period }, ?_, ?_⟩
  · exact advance_eq_ok_iff.mpr (.begun hsettled closed move)
  · exact advance_eq_ok_iff.mpr (.opened rfl rfl fits)

/-- Once the window is over, no promotion is left that would outlive a canceled payment. -/
theorem advance_canceled_of_due (move : s.status.canBecome .canceled)
    (same : s.period = some period) (closed : ¬ s.IsRunning now) :
    s.advance (.payment .canceled period now) = .ok { s with status := .canceled } :=
  advance_eq_ok_iff.mpr (.reported move same (by decide) fun _ => closed)

/-- **A product is never stuck.** Take any changes, in any order of their instants, and an instant
at which the window that they leave is over. A payment that is still under way has a period, and can
be canceled for it. From there, and at once if no payment is under way, every period can be checked
out and paid, as long as the end of its window is in range. -/
theorem never_stuck (changes : List PremiumChange)
    (ended : ∀ e ∈ (inactive.run changes).expire, e ≤ now)
    (fits : now.plusDays? period.days = some expire) :
    let s := inactive.run changes
    (s.status = .pending ∨ s.status = .waitingForCapture →
      ∃ stored canceled, s.period = some stored ∧
        s.advance (.payment .canceled stored now) = .ok canceled ∧
        canceled.status = .canceled ∧ canceled.CanBuy period now expire) ∧
    (¬ (s.status = .pending ∨ s.status = .waitingForCapture) → s.CanBuy period now expire) := by
  intro s
  have hclosed : ¬ s.IsRunning now := not_isRunning_of_le ended
  constructor
  · intro hdue
    have hmove : s.status.canBecome .canceled := by
      rcases hdue with h | h <;> rw [h] <;> rfl
    -- Without a period the promotion would be inactive, and no payment under way.
    have hasked : s.period ≠ none := by
      intro hnone
      have hinactive : s.status = .inactive := (unasked_run changes).mpr hnone
      rcases hdue with h | h <;> rw [h] at hinactive <;> cases hinactive
    obtain ⟨stored, hstored⟩ := Option.ne_none_iff_exists'.mp hasked
    refine ⟨stored, _, hstored, advance_canceled_of_due hmove hstored hclosed, rfl, ?_⟩
    exact canBuy_of_settled rfl hclosed fits
  · intro hsettled
    refine canBuy_of_settled ?_ hclosed fits
    cases h : s.status with
    | inactive | succeeded | canceled => rfl
    | pending => exact (hsettled (.inl h)).elim
    | waitingForCapture => exact (hsettled (.inr h)).elim

/-- The end of a week that was paid at the start of 1970. -/
def weekOver : Instant := (Instant.epoch.plusDays? 7).getD .epoch

/-- A month is checked out when a paid week is over. The report on its payment is dated back to the
week, where the window is open. -/
def waitingMonth : List PremiumChange :=
  [.checkout .week .epoch, .payment .succeeded .week .epoch, .checkout .month weekOver,
    .payment .waitingForCapture .month .epoch]

/-- The month is canceled, and a year is bought. -/
theorem never_stuck_waiting : ∃ expire canceled, weekOver.plusDays? 365 = some expire ∧
    (inactive.run waitingMonth).expire = some weekOver ∧
    (inactive.run waitingMonth).advance (.payment .canceled .month weekOver) = .ok canceled ∧
    canceled.CanBuy .year weekOver expire := by
  have hended : ∀ e ∈ (inactive.run waitingMonth).expire, e ≤ weekOver := by decide
  obtain ⟨expire, hfits⟩ : ∃ expire, weekOver.plusDays? PremiumPeriod.year.days = some expire :=
    Option.isSome_iff_exists.mp (by decide)
  obtain ⟨stored, canceled, hstored, hcancel, -, hbuy⟩ :=
    (never_stuck waitingMonth hended hfits).1 (by decide)
  obtain rfl : stored = .month := Option.some.inj (hstored.symm.trans (by decide))
  exact ⟨expire, canceled, hfits, by decide, hcancel, hbuy⟩

end PremiumState

end Marketplace
