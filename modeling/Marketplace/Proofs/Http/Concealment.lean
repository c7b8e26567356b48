import Marketplace.Order.Routes
import Marketplace.Premium.Routes
import Marketplace.Proofs.Http.Provider
import Marketplace.Proofs.Order.WriteDiscipline
import Marketplace.Proofs.Premium.Columns
import Marketplace.Proofs.Premium.Projection
import Marketplace.Proofs.Sql.Fault
import Marketplace.Proofs.Wire

/-!
# What a client is told of a failure

Clients read the text of the errors that they can act on. Of an error of the storage they learn
nothing but that there was one.

* `Response.Carries`: a response whose body is an error with a given text.
* `OrderError.carries_message_iff` and `OrderError.status_iff`: the table of statuses and the list
  of the errors for clients agree.
* `serve_result_of_failsWith`: errors that are answered alike give one response.
* `performOrder_failsWith` and `performPayment_failsWith`: which behaviour of a server makes a call
  fail in the storage.
* `storage_details_hidden`: any two such failures look alike.
-/

namespace Marketplace

open Http Sql

universe u

/-! ## Texts of errors -/

/-- The body is an error with this text. -/
def Http.Response.Carries (r : Response) (message : String) : Prop :=
  r.body = .json (ErrorBody.codec.encode ⟨message⟩)

theorem Http.ErrorBody.encode_injective : Function.Injective ErrorBody.codec.encode := by
  intro a b h
  have hdecoded := congrArg ErrorBody.codec.decode? h
  rw [lawful_codec.decode?_encode, lawful_codec.decode?_encode] at hdecoded
  exact Except.ok.inj hdecoded

theorem Http.Response.error_carries_iff {status : Nat} {text message : String} :
    (error status text).Carries message ↔ text = message := by
  constructor
  · intro h
    exact congrArg ErrorBody.error (ErrorBody.encode_injective (Body.json.inj h))
  · rintro rfl
    rfl

/-- A text begins as its first part does. -/
theorem head?_toList_append {a b : String} {c : Char} (h : a.toList.head? = some c) :
    (a ++ b).toList.head? = some c := by
  simp [h]

theorem StorageFault.head?_message_ne (fault : StorageFault) :
    fault.message.toList.head? ≠ some 'f' := by
  intro h
  cases fault with
  | unknownCode code =>
    have hkind : ("unknown " ++ code.kind.label).toList.head? = some 'u' :=
      head?_toList_append (by decide +kernel)
    cases (head?_toList_append (head?_toList_append hkind)).symm.trans h
  | database text =>
    have hdatabase : ("database error: " ++ text).toList.head? = some 'd' :=
      head?_toList_append (by decide +kernel)
    cases hdatabase.symm.trans h
  | pool text =>
    have hpool : ("connection pool error: " ++ text).toList.head? = some 'c' :=
      head?_toList_append (by decide +kernel)
    cases hpool.symm.trans h

namespace OrderError

variable {e : OrderError}

/-- No error that is kept from clients reads like what they are told instead. The first letters
differ. -/
theorem message_ne_of_not_isClient (h : e.isClient = false) :
    e.message ≠ "failed to process order" := by
  intro hm
  have hhead : e.message.toList.head? = some 'f' := by
    rw [hm]
    decide +kernel
  clear hm
  cases e with
  | noAffectedRows write =>
    have hwrite : ("no rows affected by " ++ write.label).toList.head? = some 'n' :=
      head?_toList_append (by decide +kernel)
    cases hwrite.symm.trans hhead
  | identifiersUsedUp =>
    revert hhead
    decide +kernel
  | storage fault => exact fault.head?_message_ne hhead
  | _ => cases h

/-- An error has its own text in the response exactly if it is one for clients. -/
theorem carries_message_iff : e.response.Carries e.message ↔ e.isClient := by
  rw [response, Response.error_carries_iff]
  cases h : e.isClient with
  | true => simp
  | false => simpa using (message_ne_of_not_isClient h).symm

theorem status_iff : 400 ≤ e.response.status ∧ e.response.status < 500 ↔ e.isClient := by
  cases e <;> simp [response, Response.error, Response.json, Response.withBody, httpStatus, isClient]

theorem OfStorage.response (h : e.OfStorage) :
    e.response = .error 500 "failed to process order" := by
  cases e with
  | storage | noAffectedRows => rfl
  | _ => exact h.elim

theorem OfStorage.answer (h : e.OfStorage) :
    ∃ log, answerOrder (.error e) = .ok (.error 500 "failed to process order", log) := by
  refine ⟨e.log, ?_⟩
  simp [answerOrder, h.isCrash, h.response]

end OrderError

namespace PaymentError

variable {e : PaymentError}

/-- The error is one of the storage: a query failed, no connection could be had, or a stored code
means nothing. -/
def OfStorage : PaymentError → Prop
  | storage _ => True
  | _ => False

theorem OfStorage.fault (f : StorageFault) : (storage f).OfStorage := trivial

theorem OfStorage.isCrash (h : e.OfStorage) : e.isCrash = false := by
  cases e with
  | storage => rfl
  | _ => exact h.elim

theorem OfStorage.response (h : e.OfStorage) :
    e.response = .error 500 "failed to process payment" := by
  cases e with
  | storage => rfl
  | _ => exact h.elim

theorem OfStorage.answer (h : e.OfStorage) :
    ∃ log, answerPayment (.error e) = .ok (.error 500 "failed to process payment", log) := by
  refine ⟨e.log, ?_⟩
  simp [answerPayment, h.isCrash, h.response]

end PaymentError

/-- Errors that are answered alike are told alike, whatever the store is. -/
theorem serve_result_of_failsWith {σ : Type u} {Call ε α : Type} {routes : List (Route Call)}
    {perform : Call → σ → Outcome σ ε α} {answer : Except ε α → Except ε (Response × List LogLine)}
    {request : Request} {call : Call} {s : σ} {S : ε → Prop} {response : Response}
    (hp : plan routes request = .ok call)
    (ha : ∀ e, S e → ∃ log, answer (.error e) = .ok (response, log))
    (h : (perform call s).FailsWith S) :
    (serve routes perform answer request s).result = .ok (deliver request response) := by
  obtain ⟨e, he, hS⟩ := h
  obtain ⟨log, hlog⟩ := ha e hS
  exact serve_result_of_plan_eq_ok hp he hlog

/-! ## Servers that fail a call -/

theorem OrderQuery.readsReplies (now : Instant) :
    ReadsReplies (OrderQuery.statement now) OrderQuery.readReply OrderError.OfStorage where
  isControl_statement q := q.isControl_statement now
  refused q message := by cases q <;> exact ⟨_, rfl⟩
  error h := ofStorage_of_readReply h
  alike {β γ q q' r e} hq h := by
    have hsame : (⟨β, q⟩ : (β : Type) × OrderQuery β) = ⟨γ, q'⟩ :=
      OrderQuery.statement_injective now hq
    cases hsame
    exact ⟨e, h⟩

theorem PremiumColumn.lockRow_ne_writeRow {p p' : Int64} {params : List Param} :
    lockRow p ≠ writeRow p' params := by
  intro h
  have htext : lockText locked ≠ writeText written := by decide +kernel
  exact htext (congrArg Statement.sql h)

theorem PremiumRowQuery.readsReplies :
    ReadsReplies PremiumRowQuery.statement PremiumRowQuery.readReply PaymentError.OfStorage where
  isControl_statement q := by cases q <;> exact Session.isControl_bound _ _
  refused q message := by cases q <;> exact ⟨_, rfl⟩
  error {β q r e} h := by
    cases q with
    | lock | write =>
      obtain ⟨_, -, rfl⟩ := mapError_eq_error_iff.mp h
      trivial
  alike {β γ q q' r e} hq h := by
    cases q with
    | lock product =>
      cases q' with
      | lock product' => exact ⟨e, h⟩
      | write product' next =>
        rw [PremiumColumn.statement_lock, PremiumColumn.statement_write] at hq
        exact (PremiumColumn.lockRow_ne_writeRow hq).elim
    | write product next =>
      cases q' with
      | lock product' =>
        rw [PremiumColumn.statement_lock, PremiumColumn.statement_write] at hq
        exact (PremiumColumn.lockRow_ne_writeRow hq.symm).elim
      | write product' next' => exact ⟨e, h⟩

section

variable {now : Instant}

/-- A call fails in the storage if there is no server, or the server fails one of the statements
that are sent for it. -/
theorem performOrder_failsWith {call : OrderCall} {s : Session}
    (h : s.isUp = false ∨ MeetsFault (OrderQuery.statement now) OrderQuery.readReply s
      (performOrder Session.server now call s).state) :
    (performOrder Session.server now call s).FailsWith OrderError.OfStorage := by
  rw [performOrder, OrderCall.announce_state] at h
  rw [performOrder, Outcome.FailsWith, OrderCall.announce_result]
  exact transact_failsWith (OrderQuery.readsReplies now) .fault h

theorem updateOnServer_failsWith {u : PremiumUpdate} {s : Session}
    (h : s.isUp = false ∨ MeetsFault PremiumRowQuery.statement PremiumRowQuery.readReply s
      (updateOnServer Session.server u s).state) :
    (updateOnServer Session.server u s).FailsWith PaymentError.OfStorage :=
  transact_failsWith PremiumRowQuery.readsReplies .fault h

/-- So does a call of the payment service, if it asks for an update at all. -/
theorem performPayment_failsWith {supply : Nat → String} {call : PaymentCall}
    {d : PaymentDesk Session}
    (h : (d.promotions.isUp = false ∧ (call.update? now).isSome) ∨
      MeetsFault PremiumRowQuery.statement PremiumRowQuery.readReply d.promotions
        (performPayment Session.server supply now call d).state.promotions) :
    (performPayment Session.server supply now call d).FailsWith PaymentError.OfStorage := by
  rw [performPayment, PaymentDesk.run_promotions] at h
  cases hu : call.update? now with
  | none =>
    rw [hu] at h
    rcases h with ⟨-, hsome⟩ | ⟨more, hmore, x, hx, -⟩
    · cases hsome
    · obtain rfl := List.append_right_eq_self.mp hmore.symm
      cases hx
  | some u =>
    rw [hu] at h
    obtain ⟨e, he, hS⟩ := updateOnServer_failsWith (h.imp And.left id)
    have hfails : (call.work now).Fails (PaymentDesk.answer _ supply) d e _ :=
      PaymentDesk.work_fails_of_update hu he
    exact ⟨e, hfails.1, hS⟩

end

/-! ## The two services -/

/-- **Nothing of the storage is told.** Take a request that names a call of its route, so that its
caller is known and its path and body are read, and two servers on which the call fails in the
storage: with any text or unknown code, at any statement, at any time and after anything that was
sent before. The two responses are the same, with one status and one text for each service; as any
response to a `HEAD` they come without their body.

A call fails so if there is no server for it, or one that refuses a statement that is sent for it,
of transaction control or not, or replies to it with what cannot be read.

In return, an error of the order service has its own text in the response exactly if it is one for
clients, and these are the errors with a status from 400 to 499. -/
theorem storage_details_hidden (secret : String) (supply supply' : Nat → String) :
    (∀ (request : Request) (call : OrderCall), plan orderRoutes request = .ok call →
      ∀ {σ τ : Type} (server : Server σ) (server' : Server τ) (now now' : Instant) (s : σ) (s' : τ),
        let o := performOrder server now
        let o' := performOrder server' now'
        (o call s).FailsWith OrderError.OfStorage → (o' call s').FailsWith OrderError.OfStorage →
          (serveOrders o request s).result
              = .ok (deliver request (.error 500 "failed to process order")) ∧
            (serveOrders o' request s').result = (serveOrders o request s).result) ∧
    (∀ (request : Request) (call : PaymentCall), plan (paymentRoutes secret) request = .ok call →
      ∀ {σ τ : Type} (server : Server σ) (server' : Server τ) (now now' : Instant)
        (d : PaymentDesk σ) (d' : PaymentDesk τ),
        let o := performPayment server supply now
        let o' := performPayment server' supply' now'
        (o call d).FailsWith PaymentError.OfStorage →
        (o' call d').FailsWith PaymentError.OfStorage →
          (servePayments secret o request d).result
              = .ok (deliver request (.error 500 "failed to process payment")) ∧
            (servePayments secret o' request d').result
              = (servePayments secret o request d).result) ∧
    (∀ (now : Instant) (call : OrderCall) (s : Session),
      let o := performOrder Session.server now call s
      s.isUp = false ∨ MeetsFault (OrderQuery.statement now) OrderQuery.readReply s o.state →
        o.FailsWith OrderError.OfStorage) ∧
    (∀ (now : Instant) (call : PaymentCall) (d : PaymentDesk Session),
      let o := performPayment Session.server supply now call d
      (d.promotions.isUp = false ∧ (call.update? now).isSome) ∨ MeetsFault
          PremiumRowQuery.statement PremiumRowQuery.readReply d.promotions o.state.promotions →
        o.FailsWith PaymentError.OfStorage) ∧
    ∀ e : OrderError, (e.response.Carries e.message ↔ e.isClient) ∧
      (400 ≤ e.response.status ∧ e.response.status < 500 ↔ e.isClient) := by
  refine ⟨?_, ?_, fun _ _ _ => performOrder_failsWith, fun _ _ _ => performPayment_failsWith,
    fun _ => ⟨OrderError.carries_message_iff, OrderError.status_iff⟩⟩
  · intro request call hp σ τ server server' now now' s s' o o' h h'
    have hresult := serve_result_of_failsWith hp (fun _ => OrderError.OfStorage.answer) h
    have hresult' := serve_result_of_failsWith hp (fun _ => OrderError.OfStorage.answer) h'
    exact ⟨hresult, hresult'.trans hresult.symm⟩
  · intro request call hp σ τ server server' now now' d d' o o' h h'
    have hresult := serve_result_of_failsWith hp (fun _ => PaymentError.OfStorage.answer) h
    have hresult' := serve_result_of_failsWith hp (fun _ => PaymentError.OfStorage.answer) h'
    exact ⟨hresult, hresult'.trans hresult.symm⟩

/-- A buyer deletes an order. -/
def deleteThird : Request := ⟨"DELETE", "/orders/3", [("x-user-id", "7")], ""⟩

/-- No server. -/
def unreachable : Session := ⟨false, [], [], []⟩

/-- A server that deletes the order and then cannot commit. -/
def fullDisk : Session := ⟨true, [("COMMIT", "disk full")], [.affected 1], []⟩

/-- A server that finds the product with a status that has no meaning. -/
def oddStatus : Session :=
  ⟨true, [], [.rows [[.integer 7, .integer 9, .null, .null, .null]]], []⟩

/-- The one response of each service, from two servers that fail at different points. -/
theorem storage_details_hidden_pair :
    let o := serveOrders (performOrder Session.server .epoch) deleteThird
    let p := servePayments "s" (performPayment Session.server (fun _ => "key") .epoch)
      PaymentDesk.askWeek
    (o unreachable).result = .ok (deliver deleteThird (.error 500 "failed to process order")) ∧
    (o fullDisk).result = (o unreachable).result ∧
    (p ⟨unreachable, .empty⟩).result
      = .ok (deliver PaymentDesk.askWeek (.error 500 "failed to process payment")) ∧
    (p ⟨oddStatus, .empty⟩).result = (p ⟨unreachable, .empty⟩).result ∧
    OrderError.noOrdersToBuy.response.Carries "no orders in basket to buy" := by
  intro o p
  obtain ⟨horders, hpayments, horderFault, hpaymentFault, herrors⟩ :=
    storage_details_hidden "s" (fun _ => "key") (fun _ => "key")
  have hdelete : plan orderRoutes deleteThird = .ok (.delete 7 3) := by decide +kernel
  have hweek : plan (paymentRoutes "s") PaymentDesk.askWeek = .ok (.checkout 7 1 1) := by
    decide +kernel
  have hdisk : (performOrder Session.server .epoch (.delete 7 3) fullDisk).FailsWith
      OrderError.OfStorage :=
    horderFault _ _ _ (.inr ⟨_, rfl, (commit, .refused "disk full"), by decide +kernel,
      .refused _ _⟩)
  have hstatus : (performPayment Session.server (fun _ => "key") .epoch (.checkout 7 1 1)
      ⟨oddStatus, .empty⟩).FailsWith PaymentError.OfStorage :=
    ⟨.storage (.unknownCode ⟨.premiumStatus, 9⟩), by decide +kernel, trivial⟩
  obtain ⟨hshown, hsame⟩ := horders deleteThird _ hdelete Session.server Session.server .epoch
    .epoch unreachable fullDisk (horderFault _ _ _ (.inl rfl)) hdisk
  obtain ⟨hshown', hsame'⟩ := hpayments _ _ hweek Session.server Session.server .epoch .epoch
    ⟨unreachable, .empty⟩ ⟨oddStatus, .empty⟩ (hpaymentFault _ _ _ (.inl ⟨rfl, rfl⟩)) hstatus
  exact ⟨hshown, hsame, hshown', hsame', (herrors .noOrdersToBuy).1.mpr rfl⟩

end Marketplace
