import Mathlib.Data.List.Basic
import Mathlib.Data.List.Induction
import Marketplace.Proofs.Instant
import Marketplace.Proofs.Premium.Run

/-!
# The invariant of promotions

* `PremiumPeriod.Spans`: a window has the length of a period.
* `PremiumState.Coherent latest s`: what holds of a promotion once no later change than at `latest`
  has come. A window that is still open then has the length of the stored period.
* `unasked_run`: in any order of the instants, a promotion is inactive exactly if nothing was checked
  out.
* `Coherent.advance`: each change keeps it. `ordered_run_coherent`: so it holds after every list of
  changes whose instants do not go back.
-/

namespace Marketplace

/-- The nanoseconds that a period lasts. -/
def PremiumPeriod.nanos (p : PremiumPeriod) : Int := p.days * 86400000000000

theorem PremiumPeriod.days_pos (p : PremiumPeriod) : 0 < p.days := by cases p <;> decide

/-- The window from `start` to `stop` has the length of the period. One that opens in a leap second
is a second short, as its days are counted from the second before. -/
structure PremiumPeriod.Spans (p : PremiumPeriod) (start stop : Instant) : Prop where
  ends : start.plusDays? p.days = some stop
  lasts : stop.nanosSince start = p.nanos - if start.isLeap then 1000000000 else 0

theorem PremiumPeriod.spans_of_plusDays {p : PremiumPeriod} {start stop : Instant}
    (h : start.plusDays? p.days = some stop) : p.Spans start stop :=
  ⟨h, Instant.nanosSince_of_plusDays p.days_pos h⟩

namespace PremiumState

/-- The window of a promotion, with the period that it was paid for. -/
structure HasWindow (s : PremiumState) (p : PremiumPeriod) (start stop : Instant) : Prop where
  begin : s.begin = some start
  expire : s.expire = some stop
  spans : p.Spans start stop

/-- What holds of a promotion at `latest`, with no change after it. -/
structure Coherent (latest : Instant) (s : PremiumState) : Prop where
  unasked : s.status = .inactive ↔ s.period = none
  /-- A checkout may replace the period only of a window that is over. -/
  window : s.begin = none ∧ s.expire = none ∨ ∃ p start stop, s.HasWindow p start stop ∧
    start ≤ latest ∧ (s.period = some p ∨ stop ≤ latest)
  paid : s.status = .succeeded → ∃ p start stop, s.HasWindow p start stop ∧ s.period = some p

variable {s s' : PremiumState} {c : PremiumChange} {changes : List PremiumChange}
  {latest later start stop : Instant} {source target : PremiumStatus}

theorem Coherent.inactive (latest : Instant) : inactive.Coherent latest where
  unasked := ⟨fun _ => rfl, fun _ => rfl⟩
  window := .inl ⟨rfl, rfl⟩
  paid h := by cases h

theorem Coherent.mono (h : s.Coherent latest) (hle : latest ≤ later) : s.Coherent later where
  unasked := h.unasked
  window := by
    rcases h.window with hnone | ⟨p, start, stop, hw, hstart, hp⟩
    · exact .inl hnone
    · exact .inr ⟨p, start, stop, hw, Instant.le_trans hstart hle,
        hp.imp_right fun hstop => Instant.le_trans hstop hle⟩
  paid := h.paid

theorem target_ne_inactive (move : source.canBecome target) : target ≠ .inactive := by
  rintro rfl
  cases source <;> cases move

/-- An accepted change leaves a promotion that was asked for. -/
theorem Advance.unasked (h : Advance s c s') : s'.status = .inactive ↔ s'.period = none := by
  cases h with
  | retried pending same => simp [pending, same]
  | begun => simp
  | opened _ same | outlived _ same => simp [same]
  | reported move same => simp [same, target_ne_inactive move]

/-- In whatever order the instants come, nothing was checked out exactly if the promotion is
inactive. -/
theorem unasked_run (changes : List PremiumChange) :
    (inactive.run changes).status = .inactive ↔ (inactive.run changes).period = none :=
  accepted_run (P := fun _ s => s.status = .inactive ↔ s.period = none)
    ⟨fun _ => rfl, fun _ => rfl⟩ (fun _ h => h.unasked) changes

/-- A window that is not open is over. -/
theorem HasWindow.le_of_not_running {p : PremiumPeriod} (h : s.HasWindow p start stop)
    (closed : ¬ s.IsRunning latest) : stop ≤ latest := by
  rwa [isRunning_iff h.expire, Instant.not_lt] at closed

theorem HasWindow.lt_of_running {p : PremiumPeriod} (h : s.HasWindow p start stop)
    (running : s.IsRunning latest) : latest < stop :=
  (isRunning_iff h.expire).mp running

/-- **One change keeps the invariant.** -/
theorem Coherent.advance (h : s.Coherent c.now) (ha : Advance s c s') : s'.Coherent c.now := by
  have hasked := ha.unasked
  cases ha with
  | retried => exact h
  | begun _ closed =>
    refine ⟨hasked, ?_, by simp⟩
    rcases h.window with hnone | ⟨p, start, stop, hw, hstart, -⟩
    · exact .inl hnone
    · exact .inr ⟨p, start, stop, ⟨hw.begin, hw.expire, hw.spans⟩, hstart,
        .inr (hw.le_of_not_running closed)⟩
  | @opened period now stop _ same fits =>
    have hw : HasWindow { s with status := .succeeded, begin := some now, expire := some stop }
        period now stop :=
      ⟨rfl, rfl, PremiumPeriod.spans_of_plusDays fits⟩
    exact ⟨hasked, .inr ⟨period, now, stop, hw, Instant.le_refl now, .inl same⟩,
      fun _ => ⟨period, now, stop, hw, same⟩⟩
  | outlived _ same running =>
    -- The window is open, so no checkout has replaced its period.
    rcases h.window with ⟨-, hnone⟩ | ⟨p, start, stop, hw, hstart, hp⟩
    · obtain ⟨stop, hstop, -⟩ := running
      rw [hnone] at hstop
      cases hstop
    · have hperiod : s.period = some p := by
        rcases hp with hp | hstop
        · exact hp
        · exact (Instant.not_lt.mpr hstop (hw.lt_of_running running)).elim
      have hw' : HasWindow { s with status := .succeeded } p start stop :=
        ⟨hw.begin, hw.expire, hw.spans⟩
      exact ⟨hasked, .inr ⟨p, start, stop, hw', hstart, .inl hperiod⟩,
        fun _ => ⟨p, start, stop, hw', hperiod⟩⟩
  | reported _ _ unpaid =>
    refine ⟨hasked, ?_, fun hs => (unpaid hs).elim⟩
    rcases h.window with hnone | ⟨p, start, stop, hw, hstart, hp⟩
    · exact .inl hnone
    · exact .inr ⟨p, start, stop, ⟨hw.begin, hw.expire, hw.spans⟩, hstart, hp⟩

theorem Coherent.step (h : s.Coherent c.now) : (s.step c).Coherent c.now := by
  cases hc : s.advance c with
  | ok next =>
    rw [step_eq_of_ok hc]
    exact h.advance (advance_eq_ok_iff.mp hc)
  | error e =>
    rw [step_eq_of_error hc]
    exact h

/-- The invariant holds at every instant from the latest change on. -/
theorem coherent_run (ordered : changes.Pairwise fun a b => a.now ≤ b.now)
    (hle : ∀ c ∈ changes, c.now ≤ latest) : (inactive.run changes).Coherent latest := by
  induction changes using List.reverseRecOn generalizing latest with
  | nil => exact .inactive latest
  | append_singleton changes c ih =>
    obtain ⟨hbefore, -, hlast⟩ := List.pairwise_append.mp ordered
    have hc : (inactive.run changes).Coherent c.now :=
      ih hbefore fun b hb => hlast b hb c List.mem_cons_self
    rw [run_append]
    exact hc.step.mono (hle c (by simp))

theorem Coherent.isSome_begin_iff (h : s.Coherent latest) : s.begin.isSome ↔ s.expire.isSome := by
  rcases h.window with ⟨hb, he⟩ | ⟨_, _, _, hw, -⟩
  · rw [hb, he]
  · rw [hw.begin, hw.expire]
    exact ⟨fun _ => rfl, fun _ => rfl⟩

theorem Coherent.spans (h : s.Coherent latest) (hb : s.begin = some start)
    (he : s.expire = some stop) : start ≤ latest ∧ ∃ p : PremiumPeriod, p.Spans start stop := by
  rcases h.window with ⟨hnone, -⟩ | ⟨p, _, _, hw, hstart, -⟩
  · rw [hb] at hnone
    cases hnone
  · obtain rfl := Option.some.inj (hb.symm.trans hw.begin)
    obtain rfl := Option.some.inj (he.symm.trans hw.expire)
    exact ⟨hstart, p, hw.spans⟩

/-- **Every promotion is coherent.** After changes whose instants do not go back, a promotion is
inactive exactly if nothing was checked out. It has a begin exactly if it has an end, the begin is
not after the latest change, and the window has the length of a period. The window of a paid
promotion has the length of the period that is stored. -/
theorem ordered_run_coherent (ordered : changes.Pairwise fun a b => a.now ≤ b.now) :
    let s := inactive.run changes
    (s.status = .inactive ↔ s.period = none) ∧ (s.begin.isSome ↔ s.expire.isSome) ∧
    (∀ start stop, s.begin = some start → s.expire = some stop →
      (∃ c ∈ changes.getLast?, start ≤ c.now) ∧ ∃ p : PremiumPeriod, p.Spans start stop) ∧
    (s.status = .succeeded → ∃ p start stop, s.period = some p ∧ s.begin = some start ∧
      s.expire = some stop ∧ p.Spans start stop) := by
  intro s
  rcases List.eq_nil_or_concat' changes with rfl | ⟨before, c, rfl⟩
  · have h := Coherent.inactive .epoch
    refine ⟨h.unasked, h.isSome_begin_iff, fun start stop hb => ?_, fun hs => ?_⟩
    · cases hb
    · cases hs
  have hlast : ∀ b ∈ before ++ [c], b.now ≤ c.now := by
    intro b hb
    rcases List.mem_append.mp hb with hb | hb
    · exact (List.pairwise_append.mp ordered).2.2 b hb c List.mem_cons_self
    · rw [List.mem_singleton.mp hb]
      exact Instant.le_refl _
  have h : s.Coherent c.now := coherent_run ordered hlast
  refine ⟨h.unasked, h.isSome_begin_iff, fun start stop hb he => ?_, fun hs => ?_⟩
  · obtain ⟨hstart, hp⟩ := h.spans hb he
    exact ⟨⟨c, by simp, hstart⟩, hp⟩
  · obtain ⟨p, start, stop, hw, hp⟩ := h.paid hs
    exact ⟨p, start, stop, hp, hw.begin, hw.expire, hw.spans⟩

/-- The payment of a paid week is set back to pending, and canceled while the week still runs. -/
def revivedWeek : List PremiumChange :=
  [.checkout .week .epoch, .payment .succeeded .week .epoch, .payment .pending .week .epoch,
    .payment .canceled .week .epoch]

theorem ordered_run_coherent_revived : (inactive.run revivedWeek).status = .succeeded ∧
    ∃ p start stop, (inactive.run revivedWeek).period = some p ∧
      (inactive.run revivedWeek).begin = some start ∧
      (inactive.run revivedWeek).expire = some stop ∧ p.Spans start stop := by
  have hs : (inactive.run revivedWeek).status = .succeeded := by decide
  exact ⟨hs, (ordered_run_coherent (by decide)).2.2.2 hs⟩

/-- Half a second into the leap second at the end of 2016. -/
def leapSecond : Instant :=
  ⟨1483228799, 1500000000, by decide, by decide, by decide, by decide⟩

/-- A week is checked out and paid in a leap second. -/
def leapWeek : List PremiumChange :=
  [.checkout .week leapSecond, .payment .succeeded .week leapSecond]

/-- The window of a week that is paid in a leap second is a second short. -/
theorem window_short_after_leap_second : ¬ ∀ changes : List PremiumChange,
    changes.Pairwise (fun a b => a.now ≤ b.now) → ∀ start stop,
      (inactive.run changes).begin = some start → (inactive.run changes).expire = some stop →
      ∃ p : PremiumPeriod, stop.nanosSince start = p.nanos := by
  intro h
  obtain ⟨p, hp⟩ := h leapWeek (by decide) leapSecond
    ⟨1483833599, 500000000, by decide, by decide, by decide, by decide⟩ (by decide) (by decide)
  cases p <;> revert hp <;> decide

end PremiumState

end Marketplace
