import Marketplace.Premium.State

/-!
# Runs of a promotion

* `PremiumState.Advance`: the five ways in which a change is accepted (`advance_eq_ok_iff`).
* `PremiumState.accepted`: the changes of a run that are accepted, in their order.
* `PremiumState.accepted_run`: what each accepted change keeps, a run keeps.
* `PremiumState.isCrash_of_advance_eq_error`: a change whose window would end in range is no crash.
-/

namespace Marketplace

namespace PremiumState

/-- How a change takes a promotion to its next state. -/
inductive Advance (s : PremiumState) : PremiumChange → PremiumState → Prop
  /-- A checkout repeats the pending one. -/
  | retried {period now} (pending : s.status = .pending) (same : s.period = some period) :
    Advance s (.checkout period now) s
  /-- A checkout starts a new payment. -/
  | begun {period now} (settled : s.status ≠ .pending) (closed : ¬ s.IsRunning now)
    (move : s.status.canBecome .pending) :
    Advance s (.checkout period now) { s with status := .pending, period := some period }
  /-- The payment succeeds and opens a window. -/
  | opened {period now expire} (move : s.status.canBecome .succeeded)
    (same : s.period = some period) (fits : now.plusDays? period.days = some expire) :
    Advance s (.payment .succeeded period now)
      { s with status := .succeeded, begin := some now, expire := some expire }
  /-- The payment is canceled while the window is open. -/
  | outlived {period now} (move : s.status.canBecome .canceled) (same : s.period = some period)
    (running : s.IsRunning now) :
    Advance s (.payment .canceled period now) { s with status := .succeeded }
  /-- The payment has another status. -/
  | reported {status period now} (move : s.status.canBecome status) (same : s.period = some period)
    (unpaid : status ≠ .succeeded) (closed : status = .canceled → ¬ s.IsRunning now) :
    Advance s (.payment status period now) { s with status }

/-- The changes of a run that are accepted. -/
def accepted (s : PremiumState) : List PremiumChange → List PremiumChange
  | [] => []
  | c :: cs =>
    match s.advance c with
    | .ok next => c :: next.accepted cs
    | .error _ => s.accepted cs

variable {s s' : PremiumState} {c : PremiumChange} {source target : PremiumStatus}
  {period : PremiumPeriod} {now expire : Instant}

theorem isRunning_iff (h : s.expire = some expire) : s.IsRunning now ↔ now < expire := by
  simp [IsRunning, h]

/-! ## Checks -/

theorem checkMove_eq_ok_iff : checkMove source target = .ok () ↔ source.canBecome target := by
  by_cases h : source.canBecome target <;> simp [checkMove, h]

theorem checkPeriod_eq_ok_iff : s.checkPeriod period = .ok () ↔ s.period = some period := by
  by_cases h : s.period = some period <;> simp [checkPeriod, h]

theorem checkExpired_eq_ok_iff : s.checkExpired now = .ok () ↔ ¬ s.IsRunning now := by
  cases h : s.expire with
  | none => simp [checkExpired, IsRunning, h]
  | some expire => by_cases hlt : now < expire <;> simp [checkExpired, IsRunning, h, hlt]

theorem openWindow_eq_ok_iff : s.openWindow period now = .ok s' ↔
    ∃ expire, now.plusDays? period.days = some expire ∧
      { s with status := .succeeded, begin := some now, expire := some expire } = s' := by
  cases h : now.plusDays? period.days <;> simp [openWindow, h]

/-- Work behind a check succeeds if the check does, and then the work. -/
theorem checked_eq_ok_iff {ε α : Type} {check : Except ε Unit} {rest : Except ε α} {a : α} :
    (do check; rest) = .ok a ↔ check = .ok () ∧ rest = .ok a := by
  cases check with
  | ok => exact ⟨fun h => ⟨rfl, h⟩, fun h => h.2⟩
  | error e =>
    constructor
    · intro h
      cases h
    · rintro ⟨h, -⟩
      cases h

/-! ## One change -/

theorem advance_checkout_eq_ok_iff :
    s.advance (.checkout period now) = .ok s' ↔ Advance s (.checkout period now) s' := by
  rw [advance]
  by_cases hp : s.status = .pending
  · rw [if_pos hp, checked_eq_ok_iff, checkPeriod_eq_ok_iff]
    constructor
    · rintro ⟨same, h⟩
      cases h
      exact .retried hp same
    · intro h
      cases h with
      | retried _ same => exact ⟨same, rfl⟩
      | begun settled => exact (settled hp).elim
  · rw [if_neg hp, checked_eq_ok_iff, checked_eq_ok_iff, checkExpired_eq_ok_iff,
      checkMove_eq_ok_iff]
    constructor
    · rintro ⟨closed, move, h⟩
      cases h
      exact .begun hp closed move
    · intro h
      cases h with
      | retried pending => exact (hp pending).elim
      | begun _ closed move => exact ⟨closed, move, rfl⟩

theorem advance_payment_eq_ok_iff : s.advance (.payment target period now) = .ok s' ↔
    Advance s (.payment target period now) s' := by
  rw [advance, checked_eq_ok_iff, checked_eq_ok_iff, checkMove_eq_ok_iff, checkPeriod_eq_ok_iff]
  constructor
  · rintro ⟨move, same, h⟩
    by_cases hs : target = .succeeded
    · subst hs
      rw [if_pos rfl, openWindow_eq_ok_iff] at h
      obtain ⟨expire, fits, rfl⟩ := h
      exact .opened move same fits
    · rw [if_neg hs] at h
      by_cases hk : target = .canceled ∧ s.IsRunning now
      · obtain ⟨rfl, running⟩ := hk
        rw [if_pos ⟨rfl, running⟩] at h
        cases h
        exact .outlived move same running
      · rw [if_neg hk] at h
        cases h
        exact .reported move same hs fun hc running => hk ⟨hc, running⟩
  · intro h
    cases h with
    | opened move same fits =>
      exact ⟨move, same, by rw [if_pos rfl, openWindow_eq_ok_iff]; exact ⟨_, fits, rfl⟩⟩
    | outlived move same running => exact ⟨move, same, by simp [running, pure, Except.pure]⟩
    | reported move same unpaid closed =>
      exact ⟨move, same, by rw [if_neg unpaid, if_neg fun h => closed h.1 h.2]; rfl⟩

/-- A change is accepted in these five ways. -/
theorem advance_eq_ok_iff : s.advance c = .ok s' ↔ Advance s c s' := by
  cases c with
  | checkout => exact advance_checkout_eq_ok_iff
  | payment => exact advance_payment_eq_ok_iff

/-! ## Errors of a change -/

variable {e : PaymentError}

theorem checked_eq_error_iff {ε α : Type} {check : Except ε Unit} {rest : Except ε α} {e : ε} :
    (do check; rest) = .error e ↔ check = .error e ∨ check = .ok () ∧ rest = .error e := by
  cases check with
  | ok =>
    constructor
    · intro h
      exact .inr ⟨rfl, h⟩
    · rintro (h | ⟨-, h⟩)
      · cases h
      · exact h
  | error e' =>
    constructor
    · intro h
      cases h
      exact .inl rfl
    · rintro (h | ⟨h, -⟩)
      · cases h
        rfl
      · cases h

theorem isCrash_of_checkMove {source target : PremiumStatus}
    (h : checkMove source target = .error e) : e.isCrash = false := by
  rw [checkMove] at h
  split at h <;> cases h
  rfl

theorem isCrash_of_checkPeriod {period : PremiumPeriod} (h : s.checkPeriod period = .error e) :
    e.isCrash = false := by
  rw [checkPeriod] at h
  split at h <;> cases h
  rfl

theorem isCrash_of_checkExpired {now : Instant} (h : s.checkExpired now = .error e) :
    e.isCrash = false := by
  rw [checkExpired] at h
  split at h
  · split at h <;> cases h
    rfl
  · cases h

/-- Only the end of a window crashes a change. -/
theorem isCrash_of_advance_eq_error (h : s.advance c = .error e)
    (ends : ∀ period now, c = .payment .succeeded period now →
      (now.plusDays? period.days).isSome) : e.isCrash = false := by
  cases c with
  | checkout period now =>
    rw [advance] at h
    split at h
    · rcases checked_eq_error_iff.mp h with h | ⟨-, h⟩
      · exact isCrash_of_checkPeriod h
      · cases h
    · rw [checked_eq_error_iff, checked_eq_error_iff] at h
      rcases h with h | ⟨-, h | ⟨-, h⟩⟩
      · exact isCrash_of_checkExpired h
      · exact isCrash_of_checkMove h
      · cases h
  | payment status period now =>
    rw [advance, checked_eq_error_iff, checked_eq_error_iff] at h
    rcases h with h | ⟨-, h | ⟨-, h⟩⟩
    · exact isCrash_of_checkMove h
    · exact isCrash_of_checkPeriod h
    · split at h
      · rename_i hs
        subst hs
        obtain ⟨expire, fits⟩ := Option.isSome_iff_exists.mp (ends period now rfl)
        rw [openWindow, fits] at h
        cases h
      · split at h <;> cases h

/-! ## Runs -/

theorem step_eq_of_ok (h : s.advance c = .ok s') : s.step c = s' := by rw [step, h]

theorem step_eq_of_error {e : PaymentError} (h : s.advance c = .error e) : s.step c = s := by
  rw [step, h]

@[simp] theorem run_nil (s : PremiumState) : s.run [] = s := rfl

@[simp] theorem run_cons (s : PremiumState) (c : PremiumChange) (cs : List PremiumChange) :
    s.run (c :: cs) = (s.step c).run cs := rfl

theorem run_append (s : PremiumState) (cs cs' : List PremiumChange) :
    s.run (cs ++ cs') = (s.run cs).run cs' := List.foldl_append

@[simp] theorem accepted_nil (s : PremiumState) : s.accepted [] = [] := rfl

theorem accepted_cons_of_ok (h : s.advance c = .ok s') (cs : List PremiumChange) :
    s.accepted (c :: cs) = c :: s'.accepted cs := by
  rw [accepted, h]

theorem accepted_cons_of_error {e : PaymentError} (h : s.advance c = .error e)
    (cs : List PremiumChange) : s.accepted (c :: cs) = s.accepted cs := by
  rw [accepted, h]

/-- What holds at first and is kept by each accepted change holds of every run, with its accepted
changes. -/
theorem accepted_run {P : List PremiumChange → PremiumState → Prop} (first : P [] s)
    (keeps : ∀ {cs s c s'}, P cs s → Advance s c s' → P (cs ++ [c]) s') (cs : List PremiumChange) :
    P (s.accepted cs) (s.run cs) := by
  suffices h : ∀ before s, P before s → P (before ++ s.accepted cs) (s.run cs) from h [] s first
  induction cs with
  | nil => intro before s h; simpa using h
  | cons c cs ih =>
    intro before s h
    rw [run_cons]
    cases hc : s.advance c with
    | ok next =>
      rw [accepted_cons_of_ok hc, step_eq_of_ok hc, List.append_cons]
      exact ih _ _ (keeps h (advance_eq_ok_iff.mp hc))
    | error e =>
      rw [accepted_cons_of_error hc, step_eq_of_error hc]
      exact ih _ _ h

end PremiumState

end Marketplace
