import Marketplace.Proofs.Premium.Desk
import Marketplace.Proofs.Premium.Run
import Marketplace.Proofs.Sql.Reading

/-!
# Each promotion by itself

A desk keeps the promotions of all products and answers the calls of all users. Seen from one
product, only some calls matter, and each of them is one change of its promotion.

* `PaymentCall.update?`: the update of a promotion that a call asks for.
* `changesOf product saler calls`: the changes that the calls of a run ask of a product.
* `PaymentCall.resultOn`: what a call comes to, told by the product that it names.
* `get?_update`: one update, seen from one product. `run_promotions` and `perform_result`: a call is
  its update, the first on any store of promotions.
* `promotions_project`: so a run of the desk is a run of each promotion by itself.
-/

namespace Marketplace

namespace PremiumUpdate

/-- What an update comes to on the product that it names. -/
def verdict (u : PremiumUpdate) (exhibit : Option Exhibit) : Except PaymentError PremiumState :=
  match exhibit.filter (u.concerns ·.saler) with
  | none => .error (.productNotFound u.product)
  | some x => x.premium.advance u.change

/-- The change that an update asks of the product of a saler, if it means this product. -/
def changeOf? (product saler : Int64) (u : PremiumUpdate) : Option PremiumChange :=
  if u.product = product ∧ u.concerns saler then some u.change else none

end PremiumUpdate

namespace PaymentCall

/-- The product that a call names. -/
def product : PaymentCall → Int64
  | checkout _ product _ | apply product _ _ | token _ product _ => product

/-- The update of a promotion that a call asks for, if the code of its period is known. -/
def update? (now : Instant) : PaymentCall → Option PremiumUpdate
  | checkout user product code =>
    (PremiumPeriod.ofCode? code).map fun period => ⟨product, some user, .checkout period now⟩
  | apply product status code =>
    (PremiumPeriod.ofCode? code).map fun period => ⟨product, none, .payment status period now⟩
  | token _ _ _ => none

/-- What a call comes to if the product that it names is `exhibit`, with the keys of payments. An
unknown period is found first. -/
def resultOn (now : Instant) (exhibit : Option Exhibit) (key : PaymentKey → String) :
    PaymentCall → Except PaymentError PaymentAnswer
  | checkout user product code => do
    let period ← knownPeriod code
    (PremiumUpdate.verdict ⟨product, some user, .checkout period now⟩ exhibit).map fun _ =>
      .request (period.request product (key ⟨user, product, code⟩))
  | apply product status code => do
    let period ← knownPeriod code
    (PremiumUpdate.verdict ⟨product, none, .payment status period now⟩ exhibit).map .state
  | token user product code => .ok (.token (key ⟨user, product, code⟩))

end PaymentCall

/-- The changes that the calls of a run ask of the product of a saler, in their order. A checkout of
another user asks for none, nor does a call with an unknown period. -/
def changesOf (product saler : Int64) (calls : List (Instant × PaymentCall)) :
    List PremiumChange :=
  calls.filterMap fun c => (c.2.update? c.1).bind (·.changeOf? product saler)

/-- The product after some changes of its promotion; those that are refused are skipped. -/
def Exhibit.after (x : Exhibit) (changes : List PremiumChange) : Exhibit :=
  { x with premium := x.premium.run changes }

/-! ## One update -/

namespace PremiumUpdate

variable {u : PremiumUpdate} {exhibit : Option Exhibit} {x : Exhibit} {next : PremiumState}
  {product : Int64}

theorem verdict_of_concerns (h : u.concerns x.saler) :
    u.verdict (some x) = x.premium.advance u.change := by
  rw [verdict, Option.filter_some, if_pos h]

theorem verdict_eq_ok_iff : u.verdict exhibit = .ok next ↔
    ∃ x, exhibit = some x ∧ u.concerns x.saler ∧ x.premium.advance u.change = .ok next := by
  unfold verdict
  cases h : exhibit.filter (u.concerns ·.saler) with
  | none =>
    constructor
    · intro h
      cases h
    · rintro ⟨x, rfl, hconcerns, -⟩
      rw [Option.filter_some, if_pos hconcerns] at h
      cases h
  | some x =>
    obtain ⟨rfl, hconcerns⟩ := Option.filter_eq_some_iff.mp h
    constructor
    · intro haccepted
      exact ⟨x, rfl, hconcerns, haccepted⟩
    · rintro ⟨_, hx, -, haccepted⟩
      obtain rfl := Option.some.inj hx
      exact haccepted

theorem changeOf?_of_concerns (h : u.concerns x.saler) :
    u.changeOf? u.product x.saler = some u.change :=
  if_pos ⟨rfl, h⟩

theorem changeOf?_of_ne (h : u.product ≠ product) (saler : Int64) :
    u.changeOf? product saler = none :=
  if_neg fun hp => h hp.1

theorem changeOf?_of_foreign (h : ¬ u.concerns x.saler) (product : Int64) :
    u.changeOf? product x.saler = none :=
  if_neg fun hp => h hp.2

end PremiumUpdate

theorem Exhibit.after_eq_of_refused {x : Exhibit} {c : PremiumChange} {e : PaymentError}
    (h : x.premium.advance c = .error e) : x.after [c] = x := by
  rw [after, PremiumState.run_cons, PremiumState.step_eq_of_error h]
  rfl

namespace Showcase

variable {u : PremiumUpdate} {s : Showcase} {e : PaymentError} {next : PremiumState}

/-- The product that an update names decides about it. -/
theorem update_result (u : PremiumUpdate) (s : Showcase) :
    (s.update u).result = u.verdict (s.get? u.product) := by
  unfold Showcase.update PremiumUpdate.verdict
  cases (s.get? u.product).filter (u.concerns ·.saler) with
  | none => rfl
  | some x =>
    simp only
    cases x.premium.advance u.change <;> rfl

theorem update_state_of_error (h : u.verdict (s.get? u.product) = .error e) :
    (s.update u).state = s := by
  rw [← update_result] at h
  rcases update_cases u s with ⟨e, hu⟩ | ⟨x, next, -, -, -, hu⟩
  · rw [hu]
    rfl
  · rw [hu] at h
    cases h

theorem update_state_of_accepted {x : Exhibit} (hx : s.get? u.product = some x)
    (hconcerns : u.concerns x.saler) (accepted : x.premium.advance u.change = .ok next) :
    (s.update u).state = s.insert u.product { x with premium := next } := by
  rw [Showcase.update, hx, Option.filter_some, if_pos hconcerns]
  simp only [accepted]
  rfl

/-- **One update, seen from one product.** It is one change of the product that it means, and none
of any other. -/
theorem get?_update (u : PremiumUpdate) (s : Showcase) (product : Int64) :
    (s.update u).state.get? product =
      (s.get? product).map fun x => x.after (u.changeOf? product x.saler).toList := by
  cases hverdict : u.verdict (s.get? u.product) with
  | error e =>
    rw [update_state_of_error hverdict]
    cases hx : s.get? product with
    | none => rfl
    | some x =>
      have hsame : x.after (u.changeOf? product x.saler).toList = x := by
        by_cases hp : u.product = product
        · subst hp
          by_cases hconcerns : u.concerns x.saler
          · rw [hx, PremiumUpdate.verdict_of_concerns hconcerns] at hverdict
            rw [PremiumUpdate.changeOf?_of_concerns hconcerns]
            exact Exhibit.after_eq_of_refused hverdict
          · rw [PremiumUpdate.changeOf?_of_foreign hconcerns]
            rfl
        · rw [PremiumUpdate.changeOf?_of_ne hp]
          rfl
      rw [Option.map_some, hsame]
  | ok next =>
    obtain ⟨x, hx, hconcerns, accepted⟩ := PremiumUpdate.verdict_eq_ok_iff.mp hverdict
    rw [update_state_of_accepted hx hconcerns accepted, Table.get?_insert]
    by_cases hp : u.product = product
    · subst hp
      rw [if_pos rfl, hx, Option.map_some, PremiumUpdate.changeOf?_of_concerns hconcerns]
      rw [Option.toList_some, Exhibit.after, PremiumState.run_cons,
        PremiumState.step_eq_of_ok accepted]
      rfl
    · rw [if_neg hp]
      cases s.get? product with
      | none => rfl
      | some y =>
        rw [Option.map_some, PremiumUpdate.changeOf?_of_ne hp]
        rfl

end Showcase

/-! ## One call -/

namespace PaymentCall

variable {now : Instant} {exhibit : Option Exhibit} {key : PaymentKey → String}
  {user product : Int64} {code : UInt64} {period : PremiumPeriod} {status : PremiumStatus}

theorem resultOn_checkout (known : PremiumPeriod.ofCode? code = some period) :
    (checkout user product code).resultOn now exhibit key =
      (PremiumUpdate.verdict ⟨product, some user, .checkout period now⟩ exhibit).map fun _ =>
        .request (period.request product (key ⟨user, product, code⟩)) := by
  rw [resultOn, PaymentDesk.knownPeriod_eq_ok_iff.mpr known]
  rfl

theorem resultOn_apply (known : PremiumPeriod.ofCode? code = some period) :
    (apply product status code).resultOn now exhibit key =
      (PremiumUpdate.verdict ⟨product, none, .payment status period now⟩ exhibit).map .state := by
  rw [resultOn, PaymentDesk.knownPeriod_eq_ok_iff.mpr known]
  rfl

end PaymentCall

namespace PaymentDesk

section AnyStore

variable {σ : Type} {update : PremiumUpdate → σ → Outcome σ PaymentError PremiumState}
  {supply : Nat → String} {now : Instant} {call : PaymentCall} {u : PremiumUpdate}
  {e : PaymentError} {d : PaymentDesk σ} {next : PremiumState} {code : UInt64}
  {period : PremiumPeriod}

/-- The key of a payment is handed out whatever the promotions are, and leaves them alone. -/
theorem exists_paymentToken_returns
    (update : PremiumUpdate → σ → Outcome σ PaymentError PremiumState) (supply : Nat → String)
    (key : PaymentKey) (d : PaymentDesk σ) :
    ∃ t tokens, (paymentToken key).Returns (answer update supply) d t { d with tokens } := by
  refine ⟨(d.tokens.issue supply key).1.token, (d.tokens.issue supply key).2, ?_⟩
  refine Work.bind_returns.mpr ⟨_, _, Work.query_returns.mpr ⟨rfl, rfl⟩, ?_⟩
  split
  · exact Work.done_returns.mpr ⟨rfl, rfl⟩
  · exact Work.bind_returns.mpr ⟨(), _, Work.log_returns.mpr rfl, Work.done_returns.mpr ⟨rfl, rfl⟩⟩

theorem knownPeriod_returns (known : PremiumPeriod.ofCode? code = some period) :
    (Work.ofExcept (knownPeriod code) : PaymentWork PremiumPeriod).Returns (answer update supply) d
      period d :=
  Work.ofExcept_returns.mpr ⟨knownPeriod_eq_ok_iff.mpr known, rfl⟩

theorem knownPeriod_fails (hunknown : PremiumPeriod.ofCode? code = none) :
    (Work.ofExcept (knownPeriod code) : PaymentWork PremiumPeriod).Fails (answer update supply) d
      (.unknownPeriodCode code) d := by
  refine Work.ofExcept_fails.mpr ⟨?_, rfl⟩
  rw [knownPeriod, hunknown]

/-- A call fails with its update. -/
theorem work_fails_of_update (hu : call.update? now = some u)
    (h : (update u d.promotions).result = .error e) :
    (call.work now).Fails (answer update supply) d e
      { d with promotions := (update u d.promotions).state } := by
  have hask : (Work.query (.update u) : PaymentWork PremiumState).Fails (answer update supply) d e
      { d with promotions := (update u d.promotions).state } := Work.query_fails.mpr ⟨h, rfl⟩
  cases call with
  | checkout user product code =>
    obtain ⟨period, known, rfl⟩ := Option.map_eq_some_iff.mp hu
    exact Work.map_fails.mpr (Work.bind_fails_right period (knownPeriod_returns known)
      (Work.bind_fails_left (Work.discard_fails.mpr hask)))
  | apply product status code =>
    obtain ⟨period, known, rfl⟩ := Option.map_eq_some_iff.mp hu
    exact Work.map_fails.mpr (Work.bind_fails_right period (knownPeriod_returns known) hask)
  | token => cases hu

theorem exists_work_returns_of_update (hu : call.update? now = some u)
    (h : (update u d.promotions).result = .ok next) :
    ∃ a tokens, (call.work now).Returns (answer update supply) d a
      ⟨(update u d.promotions).state, tokens⟩ := by
  have hask : (Work.query (.update u) : PaymentWork PremiumState).Returns (answer update supply) d
      next { d with promotions := (update u d.promotions).state } := Work.query_returns.mpr ⟨h, rfl⟩
  generalize (update u d.promotions).state = s at hask ⊢
  cases call with
  | checkout user product code =>
    obtain ⟨period, known, rfl⟩ := Option.map_eq_some_iff.mp hu
    obtain ⟨t, tokens, ht⟩ := exists_paymentToken_returns update supply ⟨user, product, code⟩
      { d with promotions := s }
    have hwork : (checkout now user product code).Returns (answer update supply) d
        (period.request product t) ⟨s, tokens⟩ := by
      refine Work.bind_returns.mpr ⟨period, d, knownPeriod_returns known, ?_⟩
      refine Work.bind_returns.mpr ⟨(), _, Work.discard_returns.mpr ⟨next, hask⟩, ?_⟩
      refine Work.bind_returns.mpr ⟨t, _, ht, ?_⟩
      exact Work.bind_returns.mpr ⟨(), _, Work.log_returns.mpr rfl, Work.done_returns.mpr ⟨rfl, rfl⟩⟩
    exact ⟨_, tokens, Work.map_returns.mpr ⟨_, hwork, rfl⟩⟩
  | apply product status code =>
    obtain ⟨period, known, rfl⟩ := Option.map_eq_some_iff.mp hu
    exact ⟨_, _, Work.map_returns.mpr
      ⟨next, Work.bind_returns.mpr ⟨period, d, knownPeriod_returns known, hask⟩, rfl⟩⟩
  | token => cases hu

theorem run_promotions_of_none (hu : call.update? now = none) :
    ((call.work now).run (answer update supply) d).state.promotions = d.promotions := by
  cases call with
  | checkout user product code =>
    have hfails : (checkout now user product code).Fails (answer update supply) d _ d :=
      Work.bind_fails_left (knownPeriod_fails (Option.map_eq_none_iff.mp hu))
    exact congrArg promotions (Work.map_fails.mpr hfails).2
  | apply product status code =>
    have hfails : (applyStatus now product status code).Fails (answer update supply) d _ d :=
      Work.bind_fails_left (knownPeriod_fails (Option.map_eq_none_iff.mp hu))
    exact congrArg promotions (Work.map_fails.mpr hfails).2
  | token user product code =>
    obtain ⟨t, tokens, ht⟩ := exists_paymentToken_returns update supply ⟨user, product, code⟩ d
    have hreturns : ((PaymentCall.token user product code).work now).Returns (answer update supply)
        d (.token t) { d with tokens } := Work.map_returns.mpr ⟨t, ht, rfl⟩
    rw [hreturns.2]

/-- **A call and its update.** On every store, a call does to the promotions what its update does,
and nothing without one. -/
theorem run_promotions (call : PaymentCall) (d : PaymentDesk σ) :
    ((call.work now).run (answer update supply) d).state.promotions =
      (call.update? now).elim d.promotions fun u => (update u d.promotions).state := by
  cases hu : call.update? now with
  | none => exact run_promotions_of_none hu
  | some u =>
    cases hr : (update u d.promotions).result with
    | error e => exact congrArg promotions (work_fails_of_update hu hr).2
    | ok next =>
      obtain ⟨a, tokens, hreturns⟩ := exists_work_returns_of_update hu hr
      rw [hreturns.2, Option.elim_some]

end AnyStore

variable {supply : Nat → String} {now : Instant} {d d' : PaymentDesk Showcase} {call : PaymentCall}
  {u : PremiumUpdate} {e : PaymentError} {product : Int64} {key : PaymentKey → String}

theorem verdict_of_update_fails (h : (Work.query (.update u) : PaymentWork PremiumState).Fails
    (answer Showcase.update supply) d e d') :
    u.verdict (d.promotions.get? u.product) = .error e := by
  rw [Work.query_fails] at h
  rw [← Showcase.update_result]
  exact h.1

theorem resultOn_of_checkout_fails {user : Int64} {code : UInt64}
    (h : (checkout now user product code).Fails (answer Showcase.update supply) d e d') :
    (PaymentCall.checkout user product code).resultOn now (d.promotions.get? product) key
      = .error e := by
  unfold checkout at h
  rcases Work.bind_fails.mp h with h | ⟨period, _, hperiod, h⟩
  · obtain ⟨hunknown, -⟩ := Work.ofExcept_fails.mp h
    rw [PaymentCall.resultOn, hunknown]
    rfl
  obtain ⟨known, rfl⟩ := Work.ofExcept_returns.mp hperiod
  rcases Work.bind_fails.mp h with h | ⟨_, d₁, -, h⟩
  · have hverdict := verdict_of_update_fails (Work.discard_fails.mp h)
    rw [PaymentCall.resultOn_checkout (knownPeriod_eq_ok_iff.mp known), hverdict]
    rfl
  rcases Work.bind_fails.mp h with h | ⟨_, d₂, -, h⟩
  · exact (not_paymentToken_fails h).elim
  · simp [Work.bind_fails] at h

theorem resultOn_of_applyStatus_fails {status : PremiumStatus} {code : UInt64}
    (h : (applyStatus now product status code).Fails (answer Showcase.update supply) d e d') :
    (PaymentCall.apply product status code).resultOn now (d.promotions.get? product) key
      = .error e := by
  unfold applyStatus at h
  rcases Work.bind_fails.mp h with h | ⟨period, _, hperiod, h⟩
  · obtain ⟨hunknown, -⟩ := Work.ofExcept_fails.mp h
    rw [PaymentCall.resultOn, hunknown]
    rfl
  · obtain ⟨known, rfl⟩ := Work.ofExcept_returns.mp hperiod
    rw [PaymentCall.resultOn_apply (knownPeriod_eq_ok_iff.mp known), verdict_of_update_fails h]
    rfl

/-- A successful call returns what the named product alone comes to. -/
theorem Effect.resultOn {a : PaymentAnswer} (h : Effect supply now d call (.ok a) d') :
    call.resultOn now (d.promotions.get? call.product) (d.tokenOf supply) = .ok a := by
  cases h with
  | @checkedOut user product code period x next known found owner accepted =>
    have hconcerns : PremiumUpdate.concerns ⟨product, some user, .checkout period now⟩ x.saler := by
      simp [PremiumUpdate.concerns, owner]
    have hverdict := PremiumUpdate.verdict_eq_ok_iff.mpr ⟨x, found, hconcerns, accepted⟩
    rw [PaymentCall.resultOn_checkout known, PaymentCall.product, hverdict]
    rfl
  | @reported product status code period x next known found accepted =>
    have hconcerns : PremiumUpdate.concerns ⟨product, none, .payment status period now⟩ x.saler :=
      rfl
    have hverdict := PremiumUpdate.verdict_eq_ok_iff.mpr ⟨x, found, hconcerns, accepted⟩
    rw [PaymentCall.resultOn_apply known, PaymentCall.product, hverdict]
    rfl
  | issued => rfl

/-- **What a call returns.** The named product alone decides about it. -/
theorem perform_result (supply : Nat → String) (now : Instant) (call : PaymentCall)
    (d : PaymentDesk Showcase) : (d.perform supply now call).result =
      call.resultOn now (d.promotions.get? call.product) (d.tokenOf supply) := by
  have heffect := perform_effect supply now call d
  cases hr : (d.perform supply now call).result with
  | ok a =>
    rw [hr] at heffect
    exact heffect.resultOn.symm
  | error e =>
    have hfails : (call.work now).Fails (answer Showcase.update supply) d e _ := ⟨hr, rfl⟩
    symm
    cases call with
    | checkout => exact resultOn_of_checkout_fails (Work.map_fails.mp hfails)
    | apply => exact resultOn_of_applyStatus_fails (Work.map_fails.mp hfails)
    | token => exact (not_paymentToken_fails (Work.map_fails.mp hfails)).elim

/-! ## Runs -/

variable {calls : List (Instant × PaymentCall)}

/-- The product after a run of calls of which it sees only its own changes. -/
def alone (d : PaymentDesk Showcase) (calls : List (Instant × PaymentCall)) (product : Int64) :
    Option Exhibit :=
  (d.promotions.get? product).map fun x => x.after (changesOf product x.saler calls)

theorem alone_cons (supply : Nat → String) (d : PaymentDesk Showcase)
    (c : Instant × PaymentCall) (calls : List (Instant × PaymentCall)) (product : Int64) :
    (d.perform supply c.1 c.2).state.alone calls product = d.alone (c :: calls) product := by
  have hstep : (d.perform supply c.1 c.2).state.promotions.get? product =
      (d.promotions.get? product).map fun x => x.after (changesOf product x.saler [c]) := by
    rw [perform, run_promotions]
    cases hu : c.2.update? c.1 with
    | none =>
      have hnone (x : Exhibit) : x.after (changesOf product x.saler [c]) = x := by
        simp [changesOf, hu, Exhibit.after]
      simp [hnone]
    | some u =>
      rw [Option.elim_some, Showcase.get?_update]
      congr 1
      funext x
      cases hc : u.changeOf? product x.saler <;> simp [changesOf, hu, hc]
  rw [alone, alone, hstep, Option.map_map]
  congr 1
  funext x
  rw [Function.comp_apply, Exhibit.after, Exhibit.after, Exhibit.after, ← PremiumState.run_append]
  rw [changesOf, changesOf, changesOf, ← List.filterMap_append]
  rfl

/-- **Runs of a desk.** Each product ends as it would alone. -/
theorem get?_serve (supply : Nat → String) (d : PaymentDesk Showcase)
    (calls : List (Instant × PaymentCall)) (product : Int64) :
    (d.serve supply calls).promotions.get? product = d.alone calls product := by
  induction calls generalizing d with
  | nil =>
    have hnone (x : Exhibit) : x.after (changesOf product x.saler []) = x := rfl
    simp [alone, hnone]
  | cons c calls ih => rw [serve_cons, ih, alone_cons]

/-- A call of a run is made on the desk that the calls before it have left. -/
theorem getElem?_transcript {k : Nat} {now : Instant} {call : PaymentCall}
    (h : calls[k]? = some (now, call)) : (d.transcript supply calls)[k]? =
      some (call, ((d.serve supply (calls.take k)).perform supply now call).result) := by
  induction calls generalizing d k with
  | nil => cases h
  | cons c calls ih =>
    cases k with
    | zero =>
      obtain rfl := Option.some.inj h
      rfl
    | succ k => exact ih h

/-- **Each promotion is a machine of its own.** In every run of calls, about any products and by any
users, each product ends as its promotion does alone: it makes the changes that the calls ask of it,
in their order, those that are refused skipped, and sees no other call. What a call returns is told
by the product that it names, as those of its own changes that came before have left it: an unknown
period is found first, then a product that is missing or another saler's, and else the promotion
decides. -/
theorem promotions_project (supply : Nat → String) (d : PaymentDesk Showcase)
    (calls : List (Instant × PaymentCall)) :
    (∀ product, (d.serve supply calls).promotions.get? product =
      (d.promotions.get? product).map fun x =>
        { x with premium := x.premium.run (changesOf product x.saler calls) }) ∧
    ∀ k now (call : PaymentCall), calls[k]? = some (now, call) →
      (d.transcript supply calls)[k]? = some (call, call.resultOn now
        ((d.promotions.get? call.product).map fun x =>
          { x with premium := x.premium.run (changesOf call.product x.saler (calls.take k)) })
        ((d.serve supply (calls.take k)).tokenOf supply)) := by
  refine ⟨get?_serve supply d calls, fun k now call h => ?_⟩
  rw [getElem?_transcript h, perform_result, get?_serve]
  rfl

/-- Two products of two salers. -/
def pair : PaymentDesk Showcase := ⟨(Showcase.put ∅ 1 7).put 2 8, .empty⟩

/-- A week is checked out and paid for one product, in between calls on the other one, one by the
wrong saler and one without a period. -/
def mixedCalls : List (Instant × PaymentCall) :=
  [(.epoch, .checkout 7 1 1), (.epoch, .checkout 8 2 2), (.epoch, .checkout 8 1 2),
    (.epoch, .apply 3 .succeeded 9), (.epoch, .apply 1 .succeeded 1)]

theorem promotions_project_pair :
    let supply : Nat → String := fun _ => "key"
    changesOf 1 7 mixedCalls = [.checkout .week .epoch, .payment .succeeded .week .epoch] ∧
    (pair.serve supply mixedCalls).promotions.get? 1 = some ⟨7, PremiumState.inactive.run
      [.checkout .week .epoch, .payment .succeeded .week .epoch]⟩ ∧
    (pair.transcript supply mixedCalls)[2]? =
      some (.checkout 8 1 2, .error (.productNotFound 1)) ∧
    (pair.transcript supply mixedCalls)[3]? =
      some (.apply 3 .succeeded 9, .error (.unknownPeriodCode 9)) := by
  intro supply
  obtain ⟨hserve, hresults⟩ := promotions_project supply pair mixedCalls
  have hchanges : changesOf 1 7 mixedCalls =
      [.checkout .week .epoch, .payment .succeeded .week .epoch] := by decide
  refine ⟨hchanges, ?_, hresults 2 .epoch (.checkout 8 1 2) rfl,
    hresults 3 .epoch (.apply 3 .succeeded 9) rfl⟩
  rw [hserve, ← hchanges]
  rfl

end PaymentDesk

end Marketplace
