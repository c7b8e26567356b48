import Marketplace.Proofs.Http.Refusal
import Marketplace.Proofs.Premium.Run
import Marketplace.Proofs.Sql.Reading

/-!
# What can be done without the provider's secret

Without the secret, all that a request can do at the desk is a checkout for its caller
(`receive_cases`). `no_promotion_without_secret` follows: a product that was never promoted waits
for a payment at most.
-/

namespace Marketplace

open Http

universe u

variable {secret : String} {request : Request}

/-! ## The calls of a request -/

/-- The request asks for this checkout, and the caller is this user. -/
structure AsksCheckout (secret : String) (request : Request) (user : Int64)
    (body : CheckoutRequest) : Prop where
  reaches : Reaches (paymentRoutes secret) [.fixed "premium", .fixed "checkout"] request
  caller : caller? request = some user
  body : decodeBody CheckoutRequest.codec request = .ok body

/-- The only call that a request makes without the secret is a checkout for its caller. -/
theorem asksCheckout_of_plan_eq_ok (hs : ¬ isProvider secret request) {call : PaymentCall}
    (h : plan (paymentRoutes secret) request = .ok call) :
    ∃ user body, AsksCheckout secret request user body ∧
      call = .checkout user body.product body.periodCode := by
  obtain ⟨route, hroute, p, hp, params, hr, hcall⟩ := exists_handler_of_plan_eq_ok h
  simp only [paymentRoutes, List.mem_cons, List.not_mem_nil, or_false] at hroute
  rcases hroute with rfl | rfl | rfl | rfl | rfl <;> obtain rfl := List.mem_singleton.mp hp
  · cases hcall
  · obtain ⟨code, -, hcall⟩ := bind_eq_ok_iff.mp hcall
    cases hcall
  · obtain ⟨user, hu, hcall⟩ := bind_eq_ok_iff.mp hcall
    obtain ⟨body, hb, hcall⟩ := bind_eq_ok_iff.mp hcall
    cases hcall
    exact ⟨user, body, ⟨hr, caller_eq_ok_iff.mp hu, hb⟩, rfl⟩
  · cases (checkProvider_bind hs _).symm.trans hcall
  · cases hcall

theorem reportRoute_refuses (hs : ¬ isProvider secret request) : ∀ route ∈ paymentRoutes secret,
    route.pattern = [.fixed "premium", .parameter, .fixed "status"] →
      ∀ p ∈ route.handlers, ∀ params, p.2 params request = .error providerRefusal := by
  simp only [paymentRoutes, healthRoute, List.forall_mem_cons, checkProvider_bind hs]
  simp

/-! ## Promotions without the secret -/

/-- No payment has been reported: there is no window, and at most a checkout was made. -/
structure PremiumState.Unpaid (s : PremiumState) : Prop where
  status : s.status = .inactive ∨ s.status = .pending
  begin : s.begin = none
  expire : s.expire = none

theorem PremiumState.Unpaid.checkout {s s' : PremiumState} {period : PremiumPeriod} {now : Instant}
    (h : s.Unpaid) (ha : s.advance (.checkout period now) = .ok s') : s'.Unpaid := by
  cases advance_eq_ok_iff.mp ha with
  | retried => exact h
  | begun => exact ⟨.inr rfl, h.begin, h.expire⟩

namespace PaymentDesk

variable {supply : Nat → String} {now : Instant} {d : PaymentDesk Showcase} {product : Int64}

/-- The desk after a list of requests, each with its reading of the clock. -/
def receive (secret : String) (supply : Nat → String) (d : PaymentDesk Showcase)
    (requests : List (Instant × Request)) : PaymentDesk Showcase :=
  requests.foldl (fun d r => (servePayments secret (perform supply r.1) r.2 d).state) d

@[simp] theorem receive_cons (r : Instant × Request) (requests : List (Instant × Request)) :
    d.receive secret supply (r :: requests)
      = (d.receive secret supply [r]).receive secret supply requests := rfl

/-- Without the secret, a request changes nothing or checks out a product of its caller. -/
theorem receive_cases (hs : ¬ isProvider secret request) (supply : Nat → String) (now : Instant)
    (d : PaymentDesk Showcase) :
    (d.receive secret supply [(now, request)]).promotions = d.promotions ∨
    ∃ x body period next, AsksCheckout secret request x.saler body ∧
      d.promotions.get? body.product = some x ∧
      x.premium.advance (.checkout period now) = .ok next ∧
      (d.receive secret supply [(now, request)]).promotions
        = d.promotions.insert body.product { x with premium := next } := by
  simp only [receive, List.foldl_cons, List.foldl_nil, servePayments]
  cases hp : plan (paymentRoutes secret) request with
  | error response =>
    rw [serve_of_plan_eq_error hp]
    exact .inl rfl
  | ok call =>
    rw [serve_state_of_plan_eq_ok hp]
    obtain ⟨user, body, hasks, rfl⟩ := asksCheckout_of_plan_eq_ok hs hp
    have he := perform_effect supply now (.checkout user body.product body.periodCode) d
    generalize (d.perform supply now _).state = d', (d.perform supply now _).result = r at he ⊢
    cases he with
    | refused => exact .inl rfl
    | checkedOut known found owner accepted =>
      subst owner
      exact .inr ⟨_, body, _, _, hasks, found, accepted, rfl⟩

/-- No product of the desk has been paid for. -/
def Unpaid (d : PaymentDesk Showcase) : Prop :=
  ∀ product x, d.promotions.get? product = some x → x.premium.Unpaid

theorem Unpaid.receive (h : d.Unpaid) (requests : List (Instant × Request))
    (hs : ∀ r ∈ requests, ¬ isProvider secret r.2) : (d.receive secret supply requests).Unpaid := by
  induction requests generalizing d with
  | nil => exact h
  | cons r requests ih =>
    obtain ⟨hr, hrest⟩ := List.forall_mem_cons.mp hs
    rw [receive_cons]
    refine ih (fun product x hx => ?_) hrest
    rcases receive_cases hr supply r.1 d with hsame | ⟨y, body, _, _, -, hy, hnext, hd⟩
    · exact h product x (hsame ▸ hx)
    · rw [hd] at hx
      rcases Table.get?_insert_eq_some_iff.mp hx with ⟨-, rfl⟩ | ⟨-, hx⟩
      · exact (h _ _ hy).checkout hnext
      · exact h product x hx

/-- A product whose status a request changes without the secret was checked out by its saler. -/
theorem asksCheckout_of_status?_ne (hs : ¬ isProvider secret request)
    (hne : (d.receive secret supply [(now, request)]).status? product ≠ d.status? product) :
    ∃ x body, d.promotions.get? product = some x ∧ AsksCheckout secret request x.saler body ∧
      body.product = product := by
  rcases receive_cases hs supply now d with hsame | ⟨x, body, _, _, hasks, hx, -, hd⟩
  · rw [status?, hsame] at hne
    exact (hne rfl).elim
  · by_cases hp : body.product = product
    · exact ⟨x, body, hp ▸ hx, hasks, hp⟩
    · rw [status?, hd, Table.get?_insert, if_neg hp] at hne
      exact (hne rfl).elim

/-- **No promotion without the provider's secret.** Let no request of a list present the secret in
its first header for it; the empty secret cannot be presented at all. Of the products that start
inactive, none ever has a window or a status other than inactive and pending, and one becomes
pending only by a request of its saler to check it out. Every report on a product is refused in the
same way, whatever the text in its path that stands for the product and whatever its body, and on
every store. Only where that text is `periods` the path is one of the catalogue, which refuses the
method. -/
theorem no_promotion_without_secret (supply : Nat → String) {requests : List (Instant × Request)}
    (hstart : ∀ product x, d.promotions.get? product = some x → x.premium = .inactive)
    (hsecret : secret = "" ∨ ∀ r ∈ requests, r.2.rawHeader? "x-webhook-secret" ≠ some secret) :
    (∀ before, before <+: requests → ∀ product x,
      (d.receive secret supply before).promotions.get? product = some x →
        (x.premium.status = .inactive ∨ x.premium.status = .pending) ∧
          x.premium.begin = none ∧ x.premium.expire = none) ∧
    (∀ before r after product, requests = before ++ r :: after →
      let desk := d.receive secret supply before
      desk.status? product ≠ some .pending →
      (desk.receive secret supply [r]).status? product = some .pending →
        ∃ x body, desk.promotions.get? product = some x ∧ r.2.method = "POST" ∧
          segments? r.2.target = some ["premium".toList, "checkout".toList] ∧
          caller? r.2 = some x.saler ∧ decodeBody CheckoutRequest.codec r.2 = .ok body ∧
          body.product = product) ∧
    ∀ r ∈ requests, r.2.method = "PUT" → ∀ id,
      segments? r.2.target = some ["premium".toList, id, "status".toList] →
        ∀ {σ : Type u} (perform : PaymentCall → σ → Outcome σ PaymentError PaymentAnswer) (s : σ),
          (id ≠ "periods".toList →
            servePayments secret perform r.2 s = .ok (deliver r.2 providerRefusal) s) ∧
          (id = "periods".toList →
            servePayments secret perform r.2 s = .ok (deliver r.2 catalogueRefusal) s) := by
  have hs : ∀ r ∈ requests, ¬ isProvider secret r.2 := by
    intro r hr hp
    obtain ⟨hne, hheader⟩ := of_isProvider hp
    rcases hsecret with h | h
    · exact hne h
    · exact h r hr hheader
  have hunpaid : d.Unpaid := by
    intro product x hx
    rw [hstart product x hx]
    exact ⟨.inl rfl, rfl, rfl⟩
  refine ⟨?_, ?_, ?_⟩
  · intro before hb product x hx
    have h := hunpaid.receive before (fun r hr => hs r (hb.subset hr)) product x hx
    exact ⟨h.status, h.begin, h.expire⟩
  · intro before r after product hsplit desk hbefore hafter
    have hr : ¬ isProvider secret r.2 := hs r (by simp [hsplit])
    have hne : (desk.receive secret supply [r]).status? product ≠ desk.status? product := by
      rw [hafter]
      exact hbefore.symm
    obtain ⟨x, body, hx, hasks, hp⟩ := asksCheckout_of_status?_ne hr hne
    obtain ⟨hsegments, hmethod⟩ := reaches_checkout_iff.mp hasks.reaches
    exact ⟨x, body, hx, hmethod, hsegments, hasks.caller, hasks.body, hp⟩
  · intro r hr hmethod id hsegments σ perform s
    constructor
    · intro hid
      have hreaches : Reaches (paymentRoutes secret)
          [.fixed "premium", .parameter, .fixed "status"] r.2 :=
        reaches_report_iff.mpr ⟨id, hid, hsegments, hmethod⟩
      exact serve_of_plan_eq_error
        (hreaches.plan_eq_error (paymentRoutes_methods secret) (reportRoute_refuses (hs r hr)))
    · rintro rfl
      exact serve_of_plan_eq_error (plan_catalogue_status hsegments hmethod)

/-- The saler checks out a week. -/
def askWeek : Request :=
  ⟨"POST", "/premium/checkout", [("x-user-id", "7"), ("content-type", "application/json")],
    "\x7b\"product_id\":1,\"period_code\":1\x7d"⟩

/-- Somebody who does not know the secret reports that the payment succeeded. -/
def forgedReport : Request :=
  ⟨"PUT", "/premium/1/status",
    [("x-webhook-secret", "guess"), ("content-type", "application/json")],
    "\x7b\"status\":\"succeeded\",\"period_code\":1\x7d"⟩

/-- Somebody reports on a product that is called like the catalogue. -/
def reportOnPeriods : Request :=
  ⟨"PUT", "/premium/periods/status", [("content-type", "application/json")],
    "\x7b\"status\":\"succeeded\",\"period_code\":1\x7d"⟩

theorem no_promotion_without_secret_week :
    let requests := [(Instant.epoch, askWeek), (Instant.epoch, forgedReport),
      (Instant.epoch, reportOnPeriods)]
    let desk := small.receive "s" (fun _ => "key") requests
    desk.status? 1 = some .pending ∧
    (∀ product x, desk.promotions.get? product = some x → x.premium.expire = none) ∧
    caller? askWeek = some 7 ∧
    servePayments "s" (perform (fun _ => "key") .epoch) forgedReport desk
      = .ok (deliver forgedReport providerRefusal) desk ∧
    servePayments "s" (perform (fun _ => "key") .epoch) reportOnPeriods desk
      = .ok (deliver reportOnPeriods catalogueRefusal) desk := by
  intro requests desk
  have hstart : ∀ product x, small.promotions.get? product = some x → x.premium = .inactive := by
    intro product x hx
    rcases Table.get?_insert_eq_some_iff.mp hx with ⟨-, rfl⟩ | ⟨-, hx⟩
    · rfl
    · cases hx
  have hsecret : ∀ r ∈ requests, r.2.rawHeader? "x-webhook-secret" ≠ some "s" := by decide +kernel
  obtain ⟨hstates, hpending, hreports⟩ :=
    no_promotion_without_secret (fun _ => "key") hstart (.inr hsecret)
  have hweek : desk.status? 1 = some .pending := by decide +kernel
  refine ⟨hweek, fun product x hx => (hstates requests List.prefix_rfl product x hx).2.2,
    ?_, ?_, ?_⟩
  · obtain ⟨x, body, hx, -, -, hcaller, -, -⟩ :=
      hpending [] (.epoch, askWeek) _ 1 rfl (by decide) (by decide +kernel)
    cases hx
    exact hcaller
  · exact (hreports (.epoch, forgedReport) (by simp [requests]) rfl ['1'] (by decide) _ _).1
      (by decide)
  · exact (hreports (.epoch, reportOnPeriods) (by simp [requests]) rfl _ (by decide) _ _).2 rfl

/-- This report without the secret is not answered with the status 401, as the catalogue refuses its
method first. -/
theorem report_on_periods_not_unauthorized :
    reportOnPeriods.method = "PUT" ∧
    segments? reportOnPeriods.target
      = some ["premium".toList, "periods".toList, "status".toList] ∧
    reportOnPeriods.rawHeader? "x-webhook-secret" ≠ some "s" ∧
    servePayments "s" (perform (fun _ => "key") .epoch) reportOnPeriods small
      = .ok (deliver reportOnPeriods catalogueRefusal) small ∧
    (deliver reportOnPeriods catalogueRefusal).status = 405 := by
  have hsegments : segments? reportOnPeriods.target
      = some ["premium".toList, "periods".toList, "status".toList] := by decide
  exact ⟨rfl, hsegments, by decide,
    serve_of_plan_eq_error (plan_catalogue_status hsegments rfl), rfl⟩

end PaymentDesk

end Marketplace
