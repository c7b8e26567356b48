import Mathlib.Data.List.DropRight
import Marketplace.Proofs.Premium.Run

/-!
# What opens a window, and what it keeps out

The accepted changes of a run tell the state of a promotion (`Tracks`).

* `window_purchase`: a window is opened for the period of the latest checkout. A window without a
  checkout of its own is `Reopened`: a report has set the settled payment back to pending.
* `window_exclusive`: without such a report, an open window keeps out checkouts, other reports and
  the next window.
-/

namespace Marketplace

namespace PremiumChange

/-- Whether the provider reports that the payment has succeeded. -/
def isSettlement : PremiumChange → Bool
  | payment .succeeded _ _ => true
  | _ => false

/-- The period that a checkout asks for. -/
def checkoutPeriod? : PremiumChange → Option PremiumPeriod
  | checkout period _ => some period
  | payment _ _ _ => none

/-- Whether a payment is due once the change is accepted. -/
def leavesDue : PremiumChange → Bool
  | checkout _ _ | payment .pending _ _ | payment .waitingForCapture _ _ => true
  | _ => false

/-- The period of the latest checkout. -/
def lastCheckout? (changes : List PremiumChange) : Option PremiumPeriod :=
  changes.reverse.findSome? checkoutPeriod?

/-- The changes after the latest payment that succeeded. -/
def sinceSettled (changes : List PremiumChange) : List PremiumChange :=
  changes.rtakeWhile (!·.isSettlement)

/-- The provider sets a settled payment for `period` back to pending, and then only reports on it. -/
def Reopened (period : PremiumPeriod) (changes : List PremiumChange) : Prop :=
  ∃ now reports, changes = payment .pending period now :: reports ∧
    ∀ c ∈ reports, ∃ status now, c = payment status period now

variable {c : PremiumChange} {changes : List PremiumChange} {status : PremiumStatus}
  {period : PremiumPeriod} {now : Instant}

theorem isSettlement_iff : c.isSettlement ↔ ∃ period now, c = payment .succeeded period now := by
  constructor
  · intro h
    cases c with
    | checkout => cases h
    | payment status period now =>
      cases status with
      | succeeded => exact ⟨period, now, rfl⟩
      | inactive | pending | waitingForCapture | canceled => cases h
  · rintro ⟨period, now, rfl⟩
    rfl

theorem lastCheckout?_concat (changes : List PremiumChange) (c : PremiumChange) :
    lastCheckout? (changes ++ [c]) = c.checkoutPeriod?.or (lastCheckout? changes) := by
  rw [lastCheckout?, List.reverse_concat, List.findSome?_cons]
  cases c.checkoutPeriod? <;> rfl

theorem sinceSettled_concat_of_settlement (h : c.isSettlement) (changes : List PremiumChange) :
    sinceSettled (changes ++ [c]) = [] := by
  rw [sinceSettled, List.rtakeWhile_concat, if_neg (by simp [h])]

theorem sinceSettled_concat (h : c.isSettlement = false) (changes : List PremiumChange) :
    sinceSettled (changes ++ [c]) = sinceSettled changes ++ [c] := by
  rw [sinceSettled, List.rtakeWhile_concat, if_pos (by simp [h]), sinceSettled]

theorem Reopened.concat (h : Reopened period changes) (status : PremiumStatus) (now : Instant) :
    Reopened period (changes ++ [payment status period now]) := by
  obtain ⟨start, reports, rfl, hr⟩ := h
  refine ⟨start, reports ++ [payment status period now], rfl, fun c hc => ?_⟩
  rcases List.mem_append.mp hc with hc | hc
  · exact hr c hc
  · exact ⟨status, now, List.mem_singleton.mp hc⟩

theorem Reopened.checkout_not_mem (h : Reopened period changes) (q : PremiumPeriod) (now : Instant) :
    checkout q now ∉ changes := by
  obtain ⟨start, reports, rfl, hr⟩ := h
  intro hc
  rcases List.mem_cons.mp hc with hc | hc
  · cases hc
  · obtain ⟨_, _, hc⟩ := hr _ hc
    cases hc

end PremiumChange

namespace PremiumState

open PremiumChange

variable {s s' w : PremiumState} {c : PremiumChange} {acc mid : List PremiumChange}
  {status : PremiumStatus} {period : PremiumPeriod} {now expire : Instant}

/-! ## The state told by the accepted changes -/

/-- What the accepted changes of a run say about the state that they lead to. -/
structure Tracks (acc : List PremiumChange) (s : PremiumState) : Prop where
  period : s.period = lastCheckout? acc
  /-- A payment is due just after a checkout, or a report that it is under way. -/
  due : s.status.canBecome .succeeded ↔ ∃ c ∈ acc.getLast?, c.leavesDue
  settled : sinceSettled acc = [] → s.status = .inactive ∨ s.status = .succeeded
  /-- Only a report takes a settled payment further without a checkout. -/
  reopened : sinceSettled acc ≠ [] → (∀ q now, .checkout q now ∉ sinceSettled acc) →
    ∃ p, s.period = some p ∧ Reopened p (sinceSettled acc)

theorem Tracks.inactive : Tracks [] inactive where
  period := rfl
  due := by simp [PremiumState.inactive, PremiumStatus.canBecome]
  settled _ := .inl rfl
  reopened h := (h rfl).elim

theorem Advance.period_eq (h : Advance s c s') : s'.period = c.checkoutPeriod?.or s.period := by
  cases h with
  | retried _ same => exact same
  | begun | opened | outlived | reported => rfl

theorem Advance.due_iff (h : Advance s c s') : s'.status.canBecome .succeeded ↔ c.leavesDue := by
  cases h with
  | retried pending => simp [pending, leavesDue, PremiumStatus.canBecome]
  | begun | opened | outlived => simp [leavesDue, PremiumStatus.canBecome]
  | @reported status _ _ move =>
    cases status with
    | inactive => cases hs : s.status <;> simp [hs, PremiumStatus.canBecome] at move
    | pending | waitingForCapture | succeeded | canceled =>
      simp [leavesDue, PremiumStatus.canBecome]

/-- A report is accepted for the checked-out period only, which stays. -/
theorem Advance.report (h : Advance s (.payment status period now) s') :
    s.status.canBecome status ∧ s.period = some period ∧ s'.period = some period := by
  cases h with
  | opened move same | outlived move same | reported move same => exact ⟨move, same, same⟩

/-- A settled payment goes back to pending first. -/
theorem eq_pending_of_settled (hs : s.status = .inactive ∨ s.status = .succeeded)
    (move : s.status.canBecome status) : status = .pending := by
  rcases hs with hs | hs <;> rw [hs] at move <;> cases status <;>
    first | rfl | simp [PremiumStatus.canBecome] at move

theorem Tracks.advance (h : Tracks acc s) (hc : Advance s c s') : Tracks (acc ++ [c]) s' where
  period := by rw [lastCheckout?_concat, hc.period_eq, h.period]
  due := by rw [hc.due_iff, List.getLast?_concat]; simp
  settled := by
    intro hnil
    cases hset : c.isSettlement with
    | false => simp [sinceSettled_concat hset] at hnil
    | true =>
      obtain ⟨q, now, rfl⟩ := isSettlement_iff.mp hset
      cases hc with
      | opened => exact .inr rfl
      | reported _ _ unpaid => exact (unpaid rfl).elim
  reopened := by
    intro hne hno
    cases hset : c.isSettlement with
    | true => exact (hne (sinceSettled_concat_of_settlement hset acc)).elim
    | false =>
      rw [sinceSettled_concat hset] at hno ⊢
      cases c with
      | checkout q now => exact (hno q now (by simp)).elim
      | payment status q now =>
        obtain ⟨move, same, same'⟩ := hc.report
        refine ⟨q, same', ?_⟩
        by_cases hnil : sinceSettled acc = []
        · obtain rfl := eq_pending_of_settled (h.settled hnil) move
          exact ⟨now, [], by rw [hnil]; rfl, by simp⟩
        · obtain ⟨p, hp, hr⟩ := h.reopened hnil fun q now hq =>
            hno q now (List.mem_append_left _ hq)
          obtain rfl := Option.some.inj (hp.symm.trans same)
          exact hr.concat status now

theorem tracks_run (before : List PremiumChange) :
    Tracks (inactive.accepted before) (inactive.run before) :=
  accepted_run (P := Tracks) .inactive Tracks.advance before

/-! ## Which window opens -/

theorem advance_succeeded_eq_ok_iff : s.advance (.payment .succeeded period now) = .ok s' ↔
    s.status.canBecome .succeeded ∧ s.period = some period ∧
      ∃ expire, now.plusDays? period.days = some expire ∧
        s' = ⟨.succeeded, some period, some now, some expire⟩ := by
  rw [advance_eq_ok_iff]
  constructor
  · intro h
    cases h with
    | opened move same fits => exact ⟨move, same, _, fits, by rw [← same]⟩
    | reported _ _ unpaid => exact (unpaid rfl).elim
  · rintro ⟨move, same, expire, fits, rfl⟩
    rw [← same]
    exact .opened move same fits

/-- **What buys a window.** After any changes, a payment that succeeds opens a window if it is due,
for the period of the latest accepted checkout. There is an accepted checkout since the last window,
unless the provider has reopened the payment of that window. -/
theorem window_purchase (before : List PremiumChange) (period : PremiumPeriod) (now : Instant) :
    let acc := inactive.accepted before
    ((∃ next, (inactive.run before).advance (.payment .succeeded period now) = .ok next) ↔
      (∃ c ∈ acc.getLast?, c.leavesDue) ∧ lastCheckout? acc = some period ∧
        (now.plusDays? period.days).isSome) ∧
    ∀ next, (inactive.run before).advance (.payment .succeeded period now) = .ok next →
      next = ⟨.succeeded, some period, some now, now.plusDays? period.days⟩ ∧
      lastCheckout? acc = some period ∧
      ((∃ q t, .checkout q t ∈ sinceSettled acc) ↔ ¬ Reopened period (sinceSettled acc)) := by
  intro acc
  have ht := tracks_run before
  refine ⟨?_, fun next hnext => ?_⟩
  · simp only [advance_succeeded_eq_ok_iff]
    rw [← ht.due, ← ht.period, Option.isSome_iff_exists]
    constructor
    · rintro ⟨_, move, same, expire, fits, -⟩
      exact ⟨move, same, expire, fits⟩
    · rintro ⟨move, same, expire, fits⟩
      exact ⟨_, move, same, expire, fits, rfl⟩
  · obtain ⟨move, same, expire, fits, rfl⟩ := advance_succeeded_eq_ok_iff.mp hnext
    refine ⟨by rw [fits], by rw [← ht.period, same], ?_⟩
    constructor
    · rintro ⟨q, t, hq⟩ hr
      exact hr.checkout_not_mem q t hq
    · intro hr
      by_contra hno
      have hne : sinceSettled acc ≠ [] := by
        intro hnil
        rcases ht.settled hnil with hs | hs <;> rw [hs] at move <;> cases move
      obtain ⟨p, hp, hr'⟩ := ht.reopened hne fun q t hq => hno ⟨q, t, hq⟩
      obtain rfl := Option.some.inj (hp.symm.trans same)
      exact hr hr'

/-- A week that was paid at the start of 1970. -/
def paidWeek : PremiumState := ⟨.succeeded, some .week, some .epoch, Instant.epoch.plusDays? 7⟩

theorem window_purchase_week : ∃ next,
    (inactive.run [.checkout .week .epoch]).advance (.payment .succeeded .week .epoch) = .ok next ∧
      next = paidWeek := by
  have h := window_purchase [.checkout .week .epoch] .week .epoch
  obtain ⟨next, hnext⟩ := h.1.mpr (by decide)
  exact ⟨next, hnext, (h.2 next hnext).1⟩

/-- The week is paid, and then reported as pending. -/
def reopenedWeek : List PremiumChange :=
  [.checkout .week .epoch, .payment .succeeded .week .epoch, .payment .pending .week .epoch]

/-- The payment of a week that was reopened buys a second window. -/
theorem window_without_checkout : ¬ ∀ before period now next,
    (inactive.run before).advance (.payment .succeeded period now) = .ok next →
      (∃ q t, .checkout q t ∈ sinceSettled (inactive.accepted before)) ∧
        lastCheckout? (inactive.accepted before) = some period := by
  intro h
  have hsince : sinceSettled (inactive.accepted reopenedWeek) = [.payment .pending .week .epoch] := by
    decide
  obtain ⟨⟨q, t, hq⟩, -⟩ := h reopenedWeek .week .epoch paidWeek (by decide)
  rw [hsince] at hq
  cases List.mem_singleton.mp hq

/-! ## An open window -/

/-- What is accepted next to a settled payment: a checkout after the window, or a report that the
payment is pending. -/
theorem Advance.closed_of_succeeded (h : Advance s c s') (hs : s.status = .succeeded) :
    ¬ s.IsRunning c.now ∨ ∃ q now, c = .payment .pending q now := by
  cases c with
  | checkout q now =>
    cases h with
    | retried pending =>
      rw [hs] at pending
      cases pending
    | begun _ closed => exact .inl closed
  | payment status q now =>
    obtain ⟨move, -, -⟩ := h.report
    obtain rfl := eq_pending_of_settled (.inr hs) move
    exact .inr ⟨q, now, rfl⟩

/-- An open window stays as it is until it is over, or its payment is reopened. -/
theorem run_eq_or_expired (hs : w.status = .succeeded) (he : w.expire = some expire)
    (quiet : ∀ q now, .payment .pending q now ∉ w.accepted mid) :
    w.run mid = w ∨ ∃ c ∈ mid, expire ≤ c.now := by
  induction mid with
  | nil => exact .inl rfl
  | cons c mid ih =>
    cases hc : w.advance c with
    | ok next =>
      rw [accepted_cons_of_ok hc] at quiet
      rcases (advance_eq_ok_iff.mp hc).closed_of_succeeded hs with hclosed | ⟨q, now, rfl⟩
      · rw [isRunning_iff he, Instant.not_lt] at hclosed
        exact .inr ⟨c, List.mem_cons_self, hclosed⟩
      · exact (quiet q now List.mem_cons_self).elim
    | error e =>
      rw [accepted_cons_of_error hc] at quiet
      rw [run_cons, step_eq_of_error hc]
      rcases ih quiet with h | ⟨c', hc', hle⟩
      · exact .inl h
      · exact .inr ⟨c', List.mem_cons_of_mem c hc', hle⟩

theorem advance_checkout_of_running (hs : s.status = .succeeded) (he : s.expire = some expire)
    (hlt : now < expire) : s.advance (.checkout period now) = .error (.promotionRunning expire) := by
  rw [advance, hs, if_neg (by decide), checkExpired, he]
  simp only [if_pos hlt]
  rfl

theorem advance_payment_of_succeeded (hs : s.status = .succeeded) (hne : status ≠ .pending) :
    s.advance (.payment status period now) = .error (.invalidTransition .succeeded status) := by
  have hmove : PremiumStatus.canBecome .succeeded status = false := by
    cases status <;> first | rfl | exact (hne rfl).elim
  rw [advance, hs, checkMove, hmove]
  rfl

/-- **An open window keeps others out.** As long as no report that a payment is pending is accepted,
the status stays `succeeded` while the window is open. Until then every checkout and every other
report is refused, and the next window begins when this one is over or later. The instants of the
changes in between need no order, as long as `now` is not before them. -/
theorem window_exclusive (before mid : List PremiumChange)
    (hopen : (inactive.run before).advance (.payment .succeeded period now) = .ok w)
    (quiet : ∀ q t, .payment .pending q t ∉ w.accepted mid) :
    ∃ expire, now.plusDays? period.days = some expire ∧ w.expire = some expire ∧
      ∀ later, (∀ c ∈ mid, c.now ≤ later) →
        (later < expire →
          (w.run mid).status = .succeeded ∧ (w.run mid).expire = some expire ∧
          (∀ q, (w.run mid).advance (.checkout q later) = .error (.promotionRunning expire)) ∧
          ∀ status q, status ≠ .pending →
            (w.run mid).advance (.payment status q later) =
              .error (.invalidTransition .succeeded status)) ∧
        ∀ q next, (w.run mid).advance (.payment .succeeded q later) = .ok next →
          expire ≤ later ∧ next.begin = some later := by
  obtain ⟨-, -, expire, fits, rfl⟩ := advance_succeeded_eq_ok_iff.mp hopen
  refine ⟨expire, fits, rfl, fun later hle => ?_⟩
  have hrun (hlt : later < expire) :
      run ⟨.succeeded, some period, some now, some expire⟩ mid
        = ⟨.succeeded, some period, some now, some expire⟩ := by
    rcases run_eq_or_expired rfl rfl quiet with h | ⟨c, hc, hclosed⟩
    · exact h
    · exact (Instant.not_lt.mpr (Instant.le_trans hclosed (hle c hc)) hlt).elim
  refine ⟨fun hlt => ?_, fun q next hnext => ⟨?_, ?_⟩⟩
  · rw [hrun hlt]
    exact ⟨rfl, rfl, fun q => advance_checkout_of_running rfl rfl hlt,
      fun status q hne => advance_payment_of_succeeded rfl hne⟩
  · rw [← Instant.not_lt]
    intro hlt
    rw [hrun hlt, advance_payment_of_succeeded rfl (by decide)] at hnext
    cases hnext
  · obtain ⟨-, -, _, -, rfl⟩ := advance_succeeded_eq_ok_iff.mp hnext
    rfl

theorem window_exclusive_week : ∃ expire, paidWeek.expire = some expire ∧
    ∀ q, (paidWeek.run [.checkout .month .epoch]).advance (.checkout q .epoch)
      = .error (.promotionRunning expire) := by
  have hopen : (inactive.run [.checkout .week .epoch]).advance (.payment .succeeded .week .epoch)
      = .ok paidWeek := by decide
  have hquiet : paidWeek.accepted [.checkout .month .epoch] = [] := by decide
  obtain ⟨expire, -, he, h⟩ :=
    window_exclusive [.checkout .week .epoch] [.checkout .month .epoch] hopen (by simp [hquiet])
  refine ⟨expire, he, ((h .epoch (by decide)).1 ?_).2.2.1⟩
  cases he
  decide

end PremiumState

end Marketplace
