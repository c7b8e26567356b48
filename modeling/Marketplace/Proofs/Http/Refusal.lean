import Marketplace.Order.Routes
import Marketplace.Premium.Routes
import Marketplace.Proofs.Http.Reaching
import Marketplace.Proofs.Order.Reachable
import Marketplace.Proofs.Premium.Desk

/-!
# Refused requests

`refused_request_changes_nothing`: a request that is not answered with success leaves the ledger and
the desk as they were, and one that names no user is refused before any call is made.
-/

namespace Marketplace

open Http

universe u

variable {request : Request}

/-! ## Requests that a store refuses -/

theorem OrderAnswer.response_isSuccess (a : OrderAnswer) : a.response.IsSuccess := by
  cases a <;> simp [response, Response.IsSuccess, Response.json, Response.jsonList, Response.empty,
    Response.withBody]

theorem PaymentAnswer.response_isSuccess (a : PaymentAnswer) : a.response.IsSuccess := by
  cases a <;> simp [response, Response.IsSuccess, Response.json, Response.withBody]

theorem PaymentDesk.perform_state_of_error {supply : Nat → String} {now : Instant}
    {d : PaymentDesk Showcase} {call : PaymentCall} {e : PaymentError}
    (h : (d.perform supply now call).result = .error e) :
    (d.perform supply now call).state = d := by
  have he := perform_effect supply now call d
  rw [h] at he
  generalize (d.perform supply now call).state = d' at he
  cases he
  rfl

theorem serveOrders_state_of_refused {now : Instant} {l : Ledger}
    (h : ¬ ∃ response, (serveOrders (Ledger.perform now) request l).result = .ok response ∧
      response.IsSuccess) :
    (serveOrders (Ledger.perform now) request l).state = l :=
  serve_state_of_refused (fun _ _ => Ledger.perform_state_of_error)
    (fun a => ⟨_, _, rfl, a.response_isSuccess⟩) h

theorem servePayments_state_of_refused {secret : String} {supply : Nat → String} {now : Instant}
    {d : PaymentDesk Showcase}
    (h : ¬ ∃ response, (servePayments secret (PaymentDesk.perform supply now) request d).result
      = .ok response ∧ response.IsSuccess) :
    (servePayments secret (PaymentDesk.perform supply now) request d).state = d :=
  serve_state_of_refused (fun _ _ => PaymentDesk.perform_state_of_error)
    (fun a => ⟨_, _, rfl, a.response_isSuccess⟩) h

/-! ## Requests that name no user -/

theorem orderRoutes_methods : ∀ route ∈ orderRoutes, ∀ p ∈ route.handlers, p.1 ≠ "OPTIONS" := by
  decide

theorem paymentRoutes_methods (secret : String) :
    ∀ route ∈ paymentRoutes secret, ∀ p ∈ route.handlers, p.1 ≠ "OPTIONS" := by
  simp [paymentRoutes, healthRoute]

/-- All routes but the one of the health check ask for the caller first. -/
theorem orderRoutes_refuse (h : request.Anonymous) : ∀ route ∈ orderRoutes,
    route.pattern ≠ [.fixed "health"] →
      ∀ p ∈ route.handlers, ∀ params, p.2 params request = .error callerRefusal := by
  simp only [orderRoutes, healthRoute, List.forall_mem_cons, h.caller_bind]
  simp

theorem checkoutRoute_refuses (h : request.Anonymous) (secret : String) :
    ∀ route ∈ paymentRoutes secret, route.pattern = [.fixed "premium", .fixed "checkout"] →
      ∀ p ∈ route.handlers, ∀ params, p.2 params request = .error callerRefusal := by
  simp only [paymentRoutes, healthRoute, List.forall_mem_cons, h.caller_bind]
  simp

/-- **A refused request changes nothing.** Whatever the request, with any bytes for its body, if it
is not answered with success, the ledger is what it was, and so are the promotions and the keys of
the desk. On every store, a request that names no user is refused at the paths of the basket, the
orders and the checkout, before the numbers in its path and its body are read and before any call is
made. -/
theorem refused_request_changes_nothing :
    (∀ (now : Instant) (request : Request) (l : Ledger),
      let o := serveOrders (Ledger.perform now) request l
      (¬ ∃ response, o.result = .ok response ∧ response.IsSuccess) → o.state = l) ∧
    (∀ (secret : String) (supply : Nat → String) (now : Instant) (request : Request)
        (d : PaymentDesk Showcase),
      let o := servePayments secret (PaymentDesk.perform supply now) request d
      (¬ ∃ response, o.result = .ok response ∧ response.IsSuccess) → o.state = d) ∧
    (∀ request : Request, request.Anonymous → ∀ segments methods,
      segments? request.target = some segments → UserPath segments methods →
        request.handledAs ∈ methods →
          ∀ {σ : Type u} (perform : OrderCall → σ → Outcome σ OrderError OrderAnswer) (s : σ),
            serveOrders perform request s = .ok (deliver request callerRefusal) s) ∧
    ∀ request : Request, request.Anonymous →
      segments? request.target = some ["premium".toList, "checkout".toList] →
        request.method = "POST" →
          ∀ (secret : String) {σ : Type u}
            (perform : PaymentCall → σ → Outcome σ PaymentError PaymentAnswer) (s : σ),
            servePayments secret perform request s = .ok (deliver request callerRefusal) s := by
  refine ⟨fun _ _ _ => serveOrders_state_of_refused,
    fun _ _ _ _ _ => servePayments_state_of_refused, ?_, ?_⟩
  · intro request ha segments methods hsegments hpath hmethod σ perform s
    obtain ⟨name, pattern, hname, hr⟩ :=
      reaches_user_iff.mpr ⟨segments, methods, hsegments, hpath, hmethod⟩
    refine serve_of_plan_eq_error (hr.plan_eq_error orderRoutes_methods ?_)
    intro route hroute hpattern
    refine orderRoutes_refuse ha route hroute ?_
    rw [hpattern]
    rcases hname with rfl | rfl <;> simp
  · intro request ha hsegments hmethod secret σ perform s
    have hr : Reaches (paymentRoutes secret) [.fixed "premium", .fixed "checkout"] request :=
      reaches_checkout_iff.mpr ⟨hsegments, hmethod⟩
    exact serve_of_plan_eq_error
      (hr.plan_eq_error (paymentRoutes_methods secret) (checkoutRoute_refuses ha secret))

/-- A user puts no pieces at all into the basket. The last byte of the body is no text. -/
def addNothing : Request :=
  ⟨"POST", "/basket", [("x-user-id", "7"), ("content-type", "application/json")],
    Text.utf8 "\x7b\"product_id\":1,\"count\":0\x7d".toList ++ [0xFF]⟩

/-- The provider reports a payment for a product that nobody has checked out. -/
def earlyReport : Request :=
  ⟨"PUT", "/premium/1/status", [("x-webhook-secret", "s"), ("content-type", "application/json")],
    "\x7b\"status\":\"succeeded\",\"period_code\":1\x7d"⟩

/-- Somebody who is not a user deletes an order that has no number. -/
def namelessDelete : Request := ⟨"DELETE", "/orders/last", [("x-user-id", "me")], ""⟩

def namelessCheckout : Request := ⟨"POST", "/premium/checkout", [], ""⟩

theorem not_success_of_status {ε : Type} {r : Except ε Response} {n : Nat}
    (h : r.toOption.map (·.status) = some n) (hn : 300 ≤ n) :
    ¬ ∃ response, r = .ok response ∧ response.IsSuccess := by
  rintro ⟨response, rfl, hs⟩
  obtain rfl : response.status = n := Option.some.inj h
  exact Nat.not_lt.mpr hn hs.2

theorem refused_request_changes_nothing_shop :
    let performPayment := PaymentDesk.perform (fun _ => "key") .epoch
    (serveOrders (Ledger.perform .epoch) addNothing Ledger.shop).state = Ledger.shop ∧
    (servePayments "s" performPayment earlyReport .small).state = .small ∧
    serveOrders (Ledger.perform .epoch) namelessDelete Ledger.shop
      = .ok (deliver namelessDelete callerRefusal) Ledger.shop ∧
    servePayments "s" performPayment namelessCheckout .small
      = .ok (deliver namelessCheckout callerRefusal) .small := by
  intro performPayment
  obtain ⟨horders, hpayments, hnameless, hcheckout⟩ := refused_request_changes_nothing
  refine ⟨?_, ?_, ?_, ?_⟩
  · exact horders .epoch addNothing Ledger.shop
      (not_success_of_status (n := 400) (by decide +kernel) (by decide))
  · exact hpayments "s" _ .epoch earlyReport .small
      (not_success_of_status (n := 409) (by decide +kernel) (by decide))
  · have ha : namelessDelete.Anonymous := anonymous_iff.mpr (by decide +kernel)
    have hpath : UserPath ["orders".toList, "last".toList] ["DELETE"] :=
      .order (by decide) (by decide)
    exact hnameless namelessDelete ha _ _ (by decide) hpath (by decide) _ _
  · have ha : namelessCheckout.Anonymous := anonymous_iff.mpr (by decide +kernel)
    exact hcheckout namelessCheckout ha (by decide) rfl _ _ _

end Marketplace
