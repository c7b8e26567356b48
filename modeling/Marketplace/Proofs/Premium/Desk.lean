import Marketplace.Premium.Checkout
import Marketplace.Proofs.Table
import Marketplace.Proofs.Work

/-!
# What a call does to a desk

`PaymentDesk.Effect supply now d call result d'` lists all that one call can do, a case for each
kind of call: a refused call changes neither promotions nor keys. `perform_effect` shows that the
list is complete, so that what holds of all calls is proved by cases on it.

* `Showcase.update_cases`: a change of a promotion is refused, or accepted for its product.
* `PaymentDesk.serve` and `PaymentDesk.transcript`: the desk after a list of calls, and what they
  returned.
-/

namespace Marketplace

/-- A change is refused and leaves all promotions as they were, or it moves the promotion of the
product that it means. -/
theorem Showcase.update_cases (u : PremiumUpdate) (s : Showcase) : (∃ e, s.update u = .error e s) ∨
    ∃ x next, s.get? u.product = some x ∧ u.concerns x.saler ∧
      x.premium.advance u.change = .ok next ∧
      s.update u = .ok next (s.insert u.product { x with premium := next }) := by
  unfold Showcase.update
  split
  · exact .inl ⟨_, rfl⟩
  · rename_i x hx
    obtain ⟨hget, hconcerns⟩ := Option.filter_eq_some_iff.mp hx
    split
    · exact .inl ⟨_, rfl⟩
    · rename_i next hnext
      exact .inr ⟨x, next, hget, hconcerns, hnext, rfl⟩

/-- What the payment provider gets for a checkout of the period, under this key. -/
def PremiumPeriod.request (p : PremiumPeriod) (product : Int64) (token : String) : PaymentRequest :=
  ⟨token, p.amount, currency, p.description, product, p⟩

namespace PaymentDesk

variable {supply : Nat → String} {now : Instant} {d : PaymentDesk Showcase} {call : PaymentCall}

/-- The status of a product's promotion. -/
def status? (d : PaymentDesk Showcase) (product : Int64) : Option PremiumStatus :=
  (d.promotions.get? product).map (·.premium.status)

theorem status?_eq_some_iff {product : Int64} {status : PremiumStatus} :
    d.status? product = some status ↔
      ∃ x, d.promotions.get? product = some x ∧ x.premium.status = status :=
  Option.map_eq_some_iff

/-- The desk with the promotion of a product that it has. -/
def promote (d : PaymentDesk Showcase) (product : Int64) (x : Exhibit) (next : PremiumState) :
    PaymentDesk Showcase :=
  { d with promotions := d.promotions.insert product { x with premium := next } }

/-- The key of a triple. -/
def tokenOf (supply : Nat → String) (d : PaymentDesk Showcase) (key : PaymentKey) : String :=
  (d.tokens.issue supply key).1.token

/-- The desk once it has handed out the key of a triple. -/
def handOut (supply : Nat → String) (d : PaymentDesk Showcase) (key : PaymentKey) :
    PaymentDesk Showcase :=
  { d with tokens := (d.tokens.issue supply key).2 }

@[simp] theorem promote_tokens (d : PaymentDesk Showcase) (product : Int64) (x : Exhibit)
    (next : PremiumState) : (d.promote product x next).tokens = d.tokens := rfl

/-- All that one call can do, with its result. -/
inductive Effect (supply : Nat → String) (now : Instant) (d : PaymentDesk Showcase) :
    PaymentCall → Except PaymentError PaymentAnswer → PaymentDesk Showcase → Prop where
  | refused (call : PaymentCall) (e : PaymentError) : Effect supply now d call (.error e) d
  | checkedOut {user product : Int64} {code : UInt64} {period : PremiumPeriod} {x : Exhibit}
      {next : PremiumState} (known : PremiumPeriod.ofCode? code = some period)
      (found : d.promotions.get? product = some x) (owner : x.saler = user)
      (accepted : x.premium.advance (.checkout period now) = .ok next) :
      Effect supply now d (.checkout user product code)
        (.ok (.request (period.request product (d.tokenOf supply ⟨user, product, code⟩))))
        ((d.promote product x next).handOut supply ⟨user, product, code⟩)
  | reported {product : Int64} {status : PremiumStatus} {code : UInt64} {period : PremiumPeriod}
      {x : Exhibit} {next : PremiumState} (known : PremiumPeriod.ofCode? code = some period)
      (found : d.promotions.get? product = some x)
      (accepted : x.premium.advance (.payment status period now) = .ok next) :
      Effect supply now d (.apply product status code) (.ok (.state next))
        (d.promote product x next)
  | issued {user product : Int64} {code : UInt64} :
      Effect supply now d (.token user product code)
        (.ok (.token (d.tokenOf supply ⟨user, product, code⟩)))
        (d.handOut supply ⟨user, product, code⟩)

/-! ## The list is complete -/

section Complete

variable {d' : PaymentDesk Showcase} {key : PaymentKey} {t : String} {e : PaymentError}
  {u : PremiumUpdate} {next : PremiumState}

theorem update_returns :
    (Work.query (.update u) : PaymentWork PremiumState).Returns
      (answer Showcase.update supply) d next d' ↔
    ∃ x, d.promotions.get? u.product = some x ∧ u.concerns x.saler ∧
      x.premium.advance u.change = .ok next ∧ d.promote u.product x next = d' := by
  rw [Work.query_returns]
  simp only [answer]
  constructor
  · intro h
    rcases Showcase.update_cases u d.promotions with ⟨e, hu⟩ | ⟨x, y, hx, hc, hy, hu⟩
    · rw [hu] at h
      cases h.1
    · rw [hu] at h
      obtain ⟨hnext, rfl⟩ := h
      cases hnext
      exact ⟨x, hx, hc, hy, rfl⟩
  · rintro ⟨x, hx, hc, hy, rfl⟩
    have hu : Showcase.update u d.promotions
        = .ok next (d.promotions.insert u.product { x with premium := next }) := by
      rw [Showcase.update, hx, Option.filter_some, if_pos hc]
      simp only [hy]
    rw [hu]
    exact ⟨rfl, rfl⟩

theorem update_fails
    (h : (Work.query (.update u) : PaymentWork PremiumState).Fails
      (answer Showcase.update supply) d e d') : d' = d := by
  rw [Work.query_fails] at h
  simp only [answer] at h
  rcases Showcase.update_cases u d.promotions with ⟨e, hu⟩ | ⟨x, y, hx, hc, hy, hu⟩
  · rw [hu] at h
    exact h.2.symm
  · rw [hu] at h
    cases h.1

theorem paymentToken_returns :
    (paymentToken key).Returns (answer Showcase.update supply) d t d' ↔
      d.tokenOf supply key = t ∧ d.handOut supply key = d' := by
  unfold paymentToken
  simp only [Work.bind_returns, Work.query_returns, answer, Outcome.ok]
  constructor
  · rintro ⟨issued, d₁, ⟨hissued, rfl⟩, h⟩
    cases hissued
    split at h
    · exact Work.done_returns.mp h
    · simp only [Work.bind_returns, Work.log_returns, Work.pure_eq, Work.done_returns] at h
      obtain ⟨_, _, rfl, rfl, rfl⟩ := h
      exact ⟨rfl, rfl⟩
  · rintro ⟨rfl, rfl⟩
    refine ⟨_, _, ⟨rfl, rfl⟩, ?_⟩
    split
    · exact Work.done_returns.mpr ⟨rfl, rfl⟩
    · simp only [Work.bind_returns, Work.log_returns, Work.pure_eq, Work.done_returns]
      exact ⟨(), _, rfl, rfl, rfl⟩

theorem not_paymentToken_fails :
    ¬ (paymentToken key).Fails (answer Showcase.update supply) d e d' := by
  unfold paymentToken
  simp only [Work.bind_fails, Work.query_fails, answer, Outcome.ok]
  rintro (⟨h, -⟩ | ⟨issued, d₁, -, h⟩)
  · cases h
  · split at h
    · exact Work.not_done_fails h
    · simp [Work.bind_fails] at h

theorem knownPeriod_eq_ok_iff {code : UInt64} {period : PremiumPeriod} :
    knownPeriod code = .ok period ↔ PremiumPeriod.ofCode? code = some period := by
  unfold knownPeriod
  cases PremiumPeriod.ofCode? code <;> simp

/-- A checkout succeeds for the saler's product, if its promotion accepts it. -/
theorem checkout_returns {user product : Int64} {code : UInt64} {r : PaymentRequest} :
    (checkout now user product code).Returns (answer Showcase.update supply) d r d' ↔
    ∃ period x next, PremiumPeriod.ofCode? code = some period ∧
      d.promotions.get? product = some x ∧ x.saler = user ∧
      x.premium.advance (.checkout period now) = .ok next ∧
      period.request product (d.tokenOf supply ⟨user, product, code⟩) = r ∧
      (d.promote product x next).handOut supply ⟨user, product, code⟩ = d' := by
  unfold checkout
  simp only [Work.bind_returns, Work.ofExcept_returns, Work.discard_returns, Work.log_returns,
    Work.pure_eq, Work.done_returns, knownPeriod_eq_ok_iff, update_returns, paymentToken_returns,
    PremiumUpdate.concerns]
  constructor
  · rintro ⟨period, _, ⟨known, rfl⟩, _, _, ⟨next, x, found, owner, accepted, rfl⟩, _, _,
      ⟨rfl, rfl⟩, _, _, rfl, rfl, rfl⟩
    exact ⟨period, x, next, known, found, by simpa [eq_comm] using owner, accepted, rfl, rfl⟩
  · rintro ⟨period, x, next, known, found, rfl, accepted, rfl, rfl⟩
    exact ⟨period, d, ⟨known, rfl⟩, (), _, ⟨next, x, found, by simp, accepted, rfl⟩, _, _,
      ⟨rfl, rfl⟩, (), _, rfl, rfl, rfl⟩

theorem checkout_fails {user product : Int64} {code : UInt64}
    (h : (checkout now user product code).Fails (answer Showcase.update supply) d e d') :
    d' = d := by
  unfold checkout at h
  rw [Work.bind_fails] at h
  rcases h with h | ⟨period, _, hperiod, h⟩
  · exact (Work.ofExcept_fails.mp h).2.symm
  obtain ⟨-, rfl⟩ := Work.ofExcept_returns.mp hperiod
  rw [Work.bind_fails] at h
  rcases h with h | ⟨_, d₁, -, h⟩
  · exact update_fails (Work.discard_fails.mp h)
  rw [Work.bind_fails] at h
  rcases h with h | ⟨_, d₂, -, h⟩
  · exact (not_paymentToken_fails h).elim
  · simp [Work.bind_fails] at h

theorem applyStatus_fails {product : Int64} {status : PremiumStatus} {code : UInt64}
    (h : (applyStatus now product status code).Fails (answer Showcase.update supply) d e d') :
    d' = d := by
  unfold applyStatus at h
  rw [Work.bind_fails] at h
  rcases h with h | ⟨period, _, hperiod, h⟩
  · exact (Work.ofExcept_fails.mp h).2.symm
  · obtain ⟨-, rfl⟩ := Work.ofExcept_returns.mp hperiod
    exact update_fails h

/-- **Every call has one of the effects.** -/
theorem perform_effect (supply : Nat → String) (now : Instant) (call : PaymentCall)
    (d : PaymentDesk Showcase) :
    Effect supply now d call (d.perform supply now call).result
      (d.perform supply now call).state := by
  generalize hr : (d.perform supply now call).result = r
  generalize hs : (d.perform supply now call).state = d'
  cases r with
  | error e =>
    have hw : (call.work now).Fails (answer Showcase.update supply) d e d' := ⟨hr, hs⟩
    have hd : d' = d := by
      cases call with
      | checkout => exact checkout_fails (Work.map_fails.mp hw)
      | apply => exact applyStatus_fails (Work.map_fails.mp hw)
      | token => exact (not_paymentToken_fails (Work.map_fails.mp hw)).elim
    rw [hd]
    exact .refused call e
  | ok a =>
    have hw : (call.work now).Returns (answer Showcase.update supply) d a d' := ⟨hr, hs⟩
    cases call with
    | checkout user product code =>
      obtain ⟨r, hc, rfl⟩ := Work.map_returns.mp hw
      obtain ⟨period, x, next, known, found, owner, accepted, rfl, rfl⟩ := checkout_returns.mp hc
      exact .checkedOut known found owner accepted
    | apply product status code =>
      obtain ⟨next, hc, rfl⟩ := Work.map_returns.mp hw
      unfold applyStatus at hc
      simp only [Work.bind_returns, Work.ofExcept_returns, knownPeriod_eq_ok_iff,
        update_returns] at hc
      obtain ⟨period, _, ⟨known, rfl⟩, x, found, -, accepted, rfl⟩ := hc
      exact .reported known found accepted
    | token user product code =>
      obtain ⟨t, ht, rfl⟩ := Work.map_returns.mp hw
      obtain ⟨rfl, rfl⟩ := paymentToken_returns.mp ht
      exact .issued

end Complete

/-! ## Lists of calls -/

/-- The desk after a list of calls, each with its reading of the clock. -/
def serve (supply : Nat → String) (d : PaymentDesk Showcase)
    (calls : List (Instant × PaymentCall)) : PaymentDesk Showcase :=
  calls.foldl (fun d c => (d.perform supply c.1 c.2).state) d

/-- The calls of a list with their results. -/
def transcript (supply : Nat → String) (d : PaymentDesk Showcase) :
    List (Instant × PaymentCall) → List (PaymentCall × Except PaymentError PaymentAnswer)
  | [] => []
  | c :: calls =>
    let o := d.perform supply c.1 c.2
    (c.2, o.result) :: o.state.transcript supply calls

@[simp] theorem serve_nil (supply : Nat → String) (d : PaymentDesk Showcase) :
    d.serve supply [] = d := rfl

@[simp] theorem serve_cons (supply : Nat → String) (d : PaymentDesk Showcase)
    (c : Instant × PaymentCall) (calls : List (Instant × PaymentCall)) :
    d.serve supply (c :: calls) = (d.perform supply c.1 c.2).state.serve supply calls := rfl

/-- A desk with one product, which was never promoted. -/
def small : PaymentDesk Showcase := ⟨Table.empty.insert 1 ⟨7, .inactive⟩, .empty⟩

end PaymentDesk

end Marketplace
