import Marketplace.Proofs.Order.Columns
import Marketplace.Proofs.Order.Statements
import Marketplace.Proofs.Sql.Exchange
import Marketplace.Proofs.Sql.Reading
import Marketplace.Proofs.Sql.Transaction

/-!
# Which statements a call sends

* `OrderQuery.GoesOn`: the reply after which a call goes on. What it reads from locked orders and
  products stands in the columns of these names (`holdsOrder_iff`, `holdsStock_iff`).
* `OrderQuery.Justified`: the exchanges after which a statement is sent.
* `write_discipline`: on every session, whatever it replies, a call sends only statements that are
  justified, goes on only after such replies, and commits exactly if its work succeeds.
-/

namespace Marketplace

open Sql

/-! ## The discipline -/

namespace OrderCall

/-- How many pieces a call asks for. -/
def pieces? : OrderCall → Option Int32
  | add _ _ count | setCount _ _ count => some count
  | _ => none

/-- Whether a call goes on with its order in this status. -/
def Permits : OrderCall → OrderStatus → Prop
  | setCount _ _ _, s => s = .inBasket
  | setStatus _ _ target, s => s < target
  | buy _, s => s < .inProcessing
  | _, _ => True

end OrderCall

namespace Sql.Reply

/-- The reply to the lock of an order: its status, its count and its product. -/
def HoldsOrder (r : Reply) (status : OrderStatus) (count : Int32) (product : ProductId) : Prop :=
  r.first? heldOrderRow = .ok (some (status.code, count, product))

/-- The reply to the lock of a product: the product, for sale and with so many pieces. -/
def HoldsStock (r : Reply) (count : Int32) : Prop :=
  ∃ p, r.first? Product.ofRow? = .ok (some p) ∧ p.isActive ∧ count ≤ p.available

/-- The reply to a write that has changed a row. -/
def Changed (r : Reply) : Prop := ∃ n, r.affected? = .ok n ∧ 0 < n

/-- Status, count and product stand in the columns of these names, in the first row. -/
theorem holdsOrder_iff {r : Reply} {status : OrderStatus} {count : Int32} {product : ProductId} :
    r.HoldsOrder status count product ↔
      ∃ (row : OrderColumn → Value) (others : List (List Value)),
        r = .rows (OrderColumn.locked.map row :: others) ∧
        (row .status).int16? = .ok status.code ∧ (row .count).int32? = .ok count ∧
        (row .product).int64? = .ok product := by
  simp only [HoldsOrder, first?_eq_some_iff, heldOrderRow_eq_ok_iff]
  constructor
  · rintro ⟨_, others, hr, row, rfl, hrow⟩
    exact ⟨row, others, hr, hrow⟩
  · rintro ⟨row, others, hr, hrow⟩
    exact ⟨_, others, hr, row, rfl, hrow⟩

/-- The product stands in the columns of the first row. -/
theorem holdsStock_iff {r : Reply} {count : Int32} : r.HoldsStock count ↔
    ∃ (row : ProductColumn → Value) (others : List (List Value)) (p : Product),
      r = .rows (ProductColumn.locked.map row :: others) ∧ p.InColumns row ∧
        p.isActive ∧ count ≤ p.available := by
  simp only [HoldsStock, first?_eq_some_iff, Product.ofRow?_eq_ok_iff]
  constructor
  · rintro ⟨p, ⟨_, others, hr, row, rfl, hrow⟩, hp⟩
    exact ⟨row, others, p, hr, hrow, hp⟩
  · rintro ⟨row, others, p, hr, hrow, hp⟩
    exact ⟨p, ⟨_, others, hr, row, rfl, hrow⟩, hp⟩

end Sql.Reply

namespace OrderQuery

/-- The reply to a question after which the call goes on. In a listing the status codes of the rows
are read last, so they do not matter here. -/
def GoesOn (call : OrderCall) : {β : Type} → OrderQuery β → Reply → Prop
  | _, lockProduct _, r => ∃ n ∈ call.pieces?, r.HoldsStock n
  | _, lockOrder _ _, r =>
    ∃ status count product, r.HoldsOrder status count product ∧ call.Permits status
  | _, decrementStock _ _, r | _, writeStatus _ _ _, r | _, writeCount _ _ _, r
  | _, deleteBasketOrder _ _, r => r.Changed
  | _, insertOrder _, r => ∃ row, r.single? newOrderRow = .ok row
  | _, basketOrderIds _, r => ∃ ids, r.rows? (singleColumn Value.int64?) = .ok ids ∧ ids ≠ []
  | _, loadOrders _, r => ∃ rows, r.rows? OrderRow.ofRow? = .ok rows
  | _, firstImages _, r => ∃ rows, r.rows? imageRow = .ok rows
  | _, favourites _ _, r => ∃ ids, r.rows? (singleColumn Value.int64?) = .ok ids

/-- A listing of orders that have left the basket knows all their statuses. -/
def Decodes : {β : Type} → OrderQuery β → Reply → Prop
  | _, loadOrders (.notInBasket _), r | _, loadOrders (.soldBy _), r =>
    ∀ rows, r.rows? OrderRow.ofRow? = .ok rows → ∀ row ∈ rows, ∃ s : OrderStatus,
      row.order.status = s.code
  | _, _, _ => True

/-- The exchanges after which a call sends the statement of a question. -/
def Justified (call : OrderCall) (before : List (Asked OrderQuery)) :
    {β : Type} → OrderQuery β → Prop
  | _, decrementStock product count =>
    ∃ rest order r, before = rest ++ [⟨lockOrder order call.user, r⟩] ∧
      r.HoldsOrder .inBasket count product
  | _, writeStatus order source target =>
    source < target ∧ ∃ rest r count product taken,
      before = rest ++ ⟨lockOrder order call.user, r⟩ :: taken ∧
      r.HoldsOrder source count product ∧
      if source = .inBasket then
        ∃ r', taken = [⟨decrementStock product count, r'⟩] ∧ r'.Changed
      else taken = []
  | _, insertOrder o =>
    o.owner = call.user ∧ o.status = OrderStatus.inBasket.code ∧ 0 < o.count ∧
      ∃ r, before = [⟨lockProduct o.product, r⟩] ∧ r.HoldsStock o.count
  | _, writeCount order owner count =>
    owner = call.user ∧ 0 < count ∧ ∃ r r' old product,
      before = [⟨lockOrder order owner, r⟩, ⟨lockProduct product, r'⟩] ∧
      r.HoldsOrder .inBasket old product ∧ r'.HoldsStock count
  | _, deleteBasketOrder _ owner => owner = call.user ∧ before = []
  | _, lockOrder _ owner | _, basketOrderIds owner => owner = call.user
  | _, _ => True

end OrderQuery

/-- What a call may do: a count that it asks for is positive before anything is sent. -/
def OrderCall.discipline (call : OrderCall) : Policy OrderQuery OrderError where
  read := OrderQuery.readReply
  mayAsk asked _ q := (∀ n ∈ call.pieces?, 0 < n) ∧
    (∀ a ∈ asked, a.question.GoesOn call a.reply) ∧ q.Justified call asked
  mayFail e := e.isCrash = false

/-! ## What is read from replies -/

namespace OrderError

/-- The error is one of the storage: a query failed, no connection could be had, a stored code means
nothing, or a guarded write has changed nothing. -/
def OfStorage : OrderError → Prop
  | storage _ | noAffectedRows _ => True
  | _ => False

theorem OfStorage.fault (f : StorageFault) : (storage f).OfStorage := trivial

theorem OfStorage.isCrash {e : OrderError} (h : e.OfStorage) : e.isCrash = false := by
  cases e with
  | storage | noAffectedRows => rfl
  | _ => exact h.elim

end OrderError

section

variable {call : OrderCall} {β : Type} {q : OrderQuery β} {r : Reply}

/-- An error in a reply is one of the storage. -/
theorem ofStorage_of_readReply {e : OrderError} (h : q.readReply r = .error e) : e.OfStorage := by
  have hstorage {α : Type} {x : Except StorageFault α} {e : OrderError}
      (h : x.mapError .storage = .error e) : e.OfStorage := by
    obtain ⟨_, -, rfl⟩ := mapError_eq_error_iff.mp h
    trivial
  cases q with
  | lockOrder order owner =>
    rcases bind_eq_error_iff.mp h with h | ⟨row, -, h⟩
    · exact hstorage h
    · cases row with
      | none => cases h
      | some row =>
        rcases bind_eq_error_iff.mp h with h | ⟨_, -, h⟩
        · obtain ⟨_, -, rfl⟩ := mapError_eq_error_iff.mp h
          trivial
        · cases h
  | _ => exact hstorage h

/-- After an error in a reply, the transaction is taken back. -/
theorem isCrash_of_readReply {e : OrderError} (h : q.readReply r = .error e) :
    e.isCrash = false :=
  (ofStorage_of_readReply h).isCrash

theorem holdsOrder_of_readReply {order : OrderId} {owner : UserId} {held : LockedOrder}
    (h : (OrderQuery.lockOrder order owner).readReply r = .ok (some held)) :
    r.HoldsOrder held.status held.count held.product := by
  obtain ⟨row, hrow, h⟩ := bind_eq_ok_iff.mp h
  cases row with
  | none => cases h
  | some row =>
    obtain ⟨status, hstatus, h⟩ := bind_eq_ok_iff.mp h
    cases h
    rw [Reply.HoldsOrder, OrderStatus.code_of_ofCode? (mapError_eq_ok_iff.mp hstatus)]
    exact mapError_eq_ok_iff.mp hrow

theorem changed_of_affected {n : Nat}
    (h : (r.affected?.mapError .storage : Except OrderError Nat) = .ok n) (hn : n ≠ 0) :
    r.Changed :=
  ⟨n, mapError_eq_ok_iff.mp h, Nat.pos_of_ne_zero hn⟩

end

/-! ## The work of a call -/

section

variable {call : OrderCall} {asked : List (Asked OrderQuery)} {order : OrderId}
  {product : ProductId} {count : Int32} {target : OrderStatus}

/-- The reply to a question lets the call go on, also at the end of a listing. -/
def Asked.Passed (call : OrderCall) (a : Asked OrderQuery) : Prop :=
  a.question.GoesOn call a.reply ∧ a.question.Decodes a.reply

theorem goesOn_of_passed (h : ∀ a ∈ asked, a.Passed call) :
    ∀ a ∈ asked, a.question.GoesOn call a.reply := fun a ha => (h a ha).1

theorem forall_mem_snoc {P : Asked OrderQuery → Prop} {b : Asked OrderQuery}
    (h : ∀ a ∈ asked, P a) (hb : P b) : ∀ a ∈ asked ++ [b], P a :=
  List.forall_mem_append.mpr ⟨h, List.forall_mem_singleton.mpr hb⟩

theorem passed_append {β : Type} (h : ∀ a ∈ asked, a.Passed call) (q : OrderQuery β) {r : Reply}
    (hg : q.GoesOn call r) (hd : q.Decodes r) :
    ∀ a ∈ asked ++ [⟨q, r⟩], Asked.Passed call a :=
  forall_mem_snoc h ⟨hg, hd⟩

theorem passed_first (call : OrderCall) {β : Type} (q : OrderQuery β) {r : Reply}
    (hg : q.GoesOn call r) (hd : q.Decodes r) :
    ∀ a ∈ [] ++ [⟨q, r⟩], Asked.Passed call a :=
  passed_append (List.forall_mem_nil _) q hg hd

theorem ask_obeys {β : Type} {q : OrderQuery β} (hn : ∀ n ∈ call.pieces?, 0 < n)
    (h : ∀ a ∈ asked, a.question.GoesOn call a.reply) (hq : q.Justified call asked) :
    (Work.query q : OrderWork β).Obeys call.discipline
      (fun after b => ∃ r, q.readReply r = .ok b ∧ after = asked ++ [⟨q, r⟩]) asked :=
  Work.query_obeys ⟨hn, h, hq⟩ (fun _ _ => isCrash_of_readReply) fun r _ hr => ⟨r, hr, rfl⟩

/-- As `ask_obeys`, for a question whose answer is all that its reply has to be. -/
theorem askPassed_obeys {β : Type} {q : OrderQuery β} (hn : ∀ n ∈ call.pieces?, 0 < n)
    (h : ∀ a ∈ asked, a.question.GoesOn call a.reply) (hq : q.Justified call asked)
    (hpass : ∀ r b, q.readReply r = .ok b → q.GoesOn call r ∧ q.Decodes r) :
    (Work.query q : OrderWork β).Obeys call.discipline
      (fun after _ => ∃ a, a.Passed call ∧ after = asked ++ [a]) asked :=
  Work.query_obeys ⟨hn, h, hq⟩ (fun _ _ => isCrash_of_readReply) fun r b hr =>
    ⟨⟨q, r⟩, hpass r b hr, rfl⟩

theorem commitStock_obeys (hn : ∀ n ∈ call.pieces?, 0 < n) (h : ∀ a ∈ asked, a.Passed call)
    (hq : (OrderQuery.decrementStock product count).Justified call asked) :
    (commitStock product count).Obeys call.discipline
      (fun after _ => ∃ r, r.Changed ∧ after = asked ++ [⟨.decrementStock product count, r⟩])
      asked := by
  unfold commitStock
  refine Work.bind_obeys (ask_obeys hn (goesOn_of_passed h) hq) ?_
  rintro _ n ⟨r, hr, rfl⟩
  exact Work.require_obeys rfl fun hne => ⟨r, changed_of_affected hr hne, rfl⟩

/-- The end of a move, which is the same whether or not pieces were taken before. -/
theorem writeStatus_obeys {source : OrderStatus} {line : LogLine}
    (hn : ∀ n ∈ call.pieces?, 0 < n) (h : ∀ a ∈ asked, a.Passed call)
    (hq : (OrderQuery.writeStatus order source target).Justified call asked) :
    (do
      let affected ← Work.query (.writeStatus order source target)
      Work.require (affected ≠ 0) (.noAffectedRows .statusUpdate)
      Work.log line : OrderWork Unit).Obeys call.discipline
        (fun after _ => ∀ a ∈ after, a.Passed call) asked := by
  refine Work.bind_obeys (ask_obeys hn (goesOn_of_passed h) hq) ?_
  rintro _ n ⟨r, hr, rfl⟩
  refine Work.require_bind_obeys rfl fun hne => ?_
  exact Work.log_obeys (passed_append h _ (changed_of_affected hr hne) trivial)

/-- An order is moved as the lock of it has found it. -/
theorem moveOrder_obeys (hn : ∀ n ∈ call.pieces?, 0 < n) (h : ∀ a ∈ asked, a.Passed call)
    (hc : ∀ s, s < target → call.Permits s) :
    (moveOrder order call.user target).Obeys call.discipline
      (fun after _ => ∀ a ∈ after, a.Passed call) asked := by
  unfold moveOrder
  refine Work.bind_obeys (ask_obeys hn (goesOn_of_passed h) rfl) ?_
  rintro _ held? ⟨r, hr, rfl⟩
  refine Work.orFail_bind_obeys rfl fun held hheld => ?_
  subst hheld
  have hlock := holdsOrder_of_readReply hr
  refine Work.require_bind_obeys rfl fun hlt => ?_
  have hlocked := passed_append h (.lockOrder order call.user) ⟨_, _, _, hlock, hc _ hlt⟩ trivial
  by_cases hb : held.status = .inBasket
  · rw [if_pos hb]
    refine Work.bind_obeys (commitStock_obeys hn hlocked ⟨asked, order, r, rfl, hb ▸ hlock⟩) ?_
    rintro _ _ ⟨r', hr', rfl⟩
    refine writeStatus_obeys hn (passed_append hlocked _ hr' trivial) ⟨hlt, asked, r, held.count,
      held.product, [⟨.decrementStock held.product held.count, r'⟩], by simp, hlock, ?_⟩
    rw [if_pos hb]
    exact ⟨r', rfl, hr'⟩
  · rw [if_neg hb]
    refine writeStatus_obeys hn hlocked
      ⟨hlt, asked, r, held.count, held.product, [], rfl, hlock, ?_⟩
    rw [if_neg hb]

theorem buyOrders_obeys {user : UserId} (orders : List OrderId)
    (h : ∀ a ∈ asked, a.Passed (.buy user)) :
    (buyOrders user orders).Obeys (OrderCall.buy user).discipline
      (fun after _ => ∀ a ∈ after, a.Passed (.buy user)) asked := by
  induction orders generalizing asked with
  | nil => exact Work.done_obeys h
  | cons order orders ih =>
    refine Work.bind_obeys (moveOrder_obeys (by simp [OrderCall.pieces?]) h fun _ hs => hs) ?_
    intro after _ hafter
    exact ih hafter

theorem buyBasket_obeys {user : UserId} : (buyBasket user).Obeys (OrderCall.buy user).discipline
    (fun after _ => ∀ a ∈ after, a.Passed (.buy user)) [] := by
  unfold buyBasket
  refine Work.bind_obeys (ask_obeys (by simp [OrderCall.pieces?]) (by simp) rfl) ?_
  rintro _ orders ⟨r, hr, rfl⟩
  refine Work.require_bind_obeys rfl fun hne => ?_
  have hread : ∃ ids, r.rows? (singleColumn Value.int64?) = .ok ids ∧ ids ≠ [] :=
    ⟨orders, mapError_eq_ok_iff.mp hr, hne⟩
  refine Work.bind_obeys (buyOrders_obeys orders (passed_append (by simp) _ hread trivial)) ?_
  intro after _ hafter
  exact Work.done_obeys hafter

/-- Reserving goes on only for a positive count and a product that has as many pieces. -/
theorem reserve_obeys {id : ProductId} (hcount : call.pieces? = some count)
    (h : ∀ a ∈ asked, a.Passed call) :
    (reserve id count).Obeys call.discipline
      (fun after _ => 0 < count ∧ ∃ r, r.HoldsStock count ∧ after = asked ++ [⟨.lockProduct id, r⟩])
      asked := by
  unfold reserve
  refine Work.require_bind_obeys rfl fun hpos => ?_
  refine Work.bind_obeys (ask_obeys (by simpa [hcount] using hpos) (goesOn_of_passed h) trivial) ?_
  rintro _ found ⟨r, hr, rfl⟩
  refine Work.orFail_bind_obeys rfl fun p hp => ?_
  obtain ⟨rfl, hactive⟩ := Option.filter_eq_some_iff.mp hp
  dsimp only
  split
  · exact rfl
  · rename_i henough
    exact Work.done_obeys ⟨hpos, r, ⟨p, mapError_eq_ok_iff.mp hr, hactive,
      Int32.not_lt.mp henough⟩, rfl⟩

theorem askImages_obeys {products : List ProductId} (hn : ∀ n ∈ call.pieces?, 0 < n)
    (h : ∀ a ∈ asked, a.question.GoesOn call a.reply) :
    (Work.query (.firstImages products) : OrderWork (Table String)).Obeys call.discipline
      (fun after _ => ∃ a, a.Passed call ∧ after = asked ++ [a]) asked := by
  refine askPassed_obeys hn h trivial fun r images hr => ⟨?_, trivial⟩
  obtain ⟨rows, hrows, -⟩ := map_eq_ok_iff.mp (mapError_eq_ok_iff.mp hr)
  exact ⟨rows, hrows⟩

theorem askFavourites_obeys {user : UserId} {products : List ProductId}
    (hn : ∀ n ∈ call.pieces?, 0 < n) (h : ∀ a ∈ asked, a.question.GoesOn call a.reply) :
    (Work.query (.favourites user products) : OrderWork (List ProductId)).Obeys call.discipline
      (fun after _ => ∃ a, a.Passed call ∧ after = asked ++ [a]) asked :=
  askPassed_obeys hn h trivial fun _ ids hr =>
    ⟨⟨ids, mapError_eq_ok_iff.mp hr⟩, trivial⟩

theorem addToBasket_obeys {user : UserId} :
    (addToBasket user product count).Obeys (OrderCall.add user product count).discipline
      (fun after _ => ∀ a ∈ after, a.Passed (.add user product count)) [] := by
  unfold addToBasket
  refine Work.bind_obeys (reserve_obeys rfl (by simp)) ?_
  rintro _ p ⟨hpos, r, hstock, rfl⟩
  have hn : ∀ n ∈ (OrderCall.add user product count).pieces?, 0 < n := by
    simpa [OrderCall.pieces?] using hpos
  have hp := passed_first (.add user product count) (.lockProduct product) ⟨count, rfl, hstock⟩
    trivial
  refine Work.bind_obeys (askPassed_obeys hn (goesOn_of_passed hp) ⟨rfl, rfl, hpos, r, rfl, hstock⟩
    fun _ row hr => ⟨⟨row, mapError_eq_ok_iff.mp hr⟩, trivial⟩) ?_
  rintro _ ⟨order, createdAt⟩ ⟨a, ha, rfl⟩
  have hp := forall_mem_snoc hp ha
  refine Work.bind_obeys (askImages_obeys hn (goesOn_of_passed hp)) ?_
  rintro _ images ⟨b, hb, rfl⟩
  have hp := forall_mem_snoc hp hb
  refine Work.bind_obeys (askFavourites_obeys hn (goesOn_of_passed hp)) ?_
  rintro _ favourites ⟨c, hc, rfl⟩
  exact Work.done_obeys (forall_mem_snoc hp hc)

theorem setCount_obeys {user : UserId} :
    (setCount user order count).Obeys (OrderCall.setCount user order count).discipline
      (fun after _ => ∀ a ∈ after, a.Passed (.setCount user order count)) [] := by
  unfold setCount
  refine Work.require_bind_obeys rfl fun hpos => ?_
  have hn : ∀ n ∈ (OrderCall.setCount user order count).pieces?, 0 < n := by
    simpa [OrderCall.pieces?] using hpos
  refine Work.bind_obeys (ask_obeys hn (by simp) rfl) ?_
  rintro _ held? ⟨r, hr, rfl⟩
  refine Work.orFail_bind_obeys rfl fun held hheld => ?_
  subst hheld
  have hlock := holdsOrder_of_readReply hr
  refine Work.require_bind_obeys rfl fun hbasket => ?_
  have hp := passed_first (.setCount user order count) (.lockOrder order user)
    ⟨_, _, _, hlock, hbasket⟩ trivial
  refine Work.bind_obeys (Work.discard_obeys (reserve_obeys rfl hp)) ?_
  rintro _ _ ⟨-, r', hstock, rfl⟩
  have hp := passed_append hp (.lockProduct held.product) ⟨count, rfl, hstock⟩ trivial
  refine Work.bind_obeys (ask_obeys hn (goesOn_of_passed hp)
    ⟨rfl, hpos, r, r', held.count, held.product, rfl, hbasket ▸ hlock, hstock⟩) ?_
  rintro _ n ⟨r'', hr'', rfl⟩
  exact Work.require_obeys rfl fun hne => passed_append hp _ (changed_of_affected hr'' hne) trivial

theorem deleteFromBasket_obeys {user : UserId} :
    (deleteFromBasket user order).Obeys (OrderCall.delete user order).discipline
      (fun after _ => ∀ a ∈ after, a.Passed (.delete user order)) [] := by
  unfold deleteFromBasket
  refine Work.bind_obeys (ask_obeys (by simp [OrderCall.pieces?]) (by simp) ⟨rfl, rfl⟩) ?_
  rintro _ n ⟨r, hr, rfl⟩
  exact Work.require_obeys rfl fun hne =>
    passed_append (by simp) _ (changed_of_affected hr hne) trivial

/-- Adorning asks about images and favourites, or nothing. -/
theorem adorn_obeys {viewer : UserId} {rows : List OrderRow} (hn : ∀ n ∈ call.pieces?, 0 < n)
    (h : ∀ a ∈ asked, a.question.GoesOn call a.reply) :
    (adorn viewer rows).Obeys call.discipline
      (fun after _ => ∃ more, (∀ a ∈ more, a.Passed call) ∧ after = asked ++ more) asked := by
  unfold adorn
  dsimp only
  split
  · exact Work.done_obeys ⟨[], by simp, (List.append_nil asked).symm⟩
  · refine Work.bind_obeys (askImages_obeys hn h) ?_
    rintro _ images ⟨a, ha, rfl⟩
    refine Work.bind_obeys (askFavourites_obeys hn (forall_mem_snoc h ha.1)) ?_
    rintro _ favourites ⟨b, hb, rfl⟩
    exact Work.done_obeys ⟨[a, b], by simp [ha, hb], by simp⟩

theorem basketEntries_obeys {user : UserId} :
    (basketEntries user).Obeys (OrderCall.basket user).discipline
      (fun after _ => ∀ a ∈ after, a.Passed (.basket user)) [] := by
  unfold basketEntries
  have hn : ∀ n ∈ (OrderCall.basket user).pieces?, 0 < n := by simp [OrderCall.pieces?]
  refine Work.bind_obeys (askPassed_obeys hn (by simp) trivial
    fun _ rows hr => ⟨⟨rows, mapError_eq_ok_iff.mp hr⟩, trivial⟩) ?_
  rintro _ rows ⟨a, ha, rfl⟩
  have hp := forall_mem_snoc (List.forall_mem_nil _) ha
  refine Work.bind_obeys (adorn_obeys hn (goesOn_of_passed hp)) ?_
  rintro _ adornment ⟨more, hmore, rfl⟩
  exact Work.done_obeys (List.forall_mem_append.mpr ⟨hp, hmore⟩)

/-- The rows of a listing that succeeds have statuses that mean something. -/
theorem decodes_of_views {filter : OrderFilter} {r : Reply} {rows : List OrderRow}
    {image : OrderRow → Option String} {isFavourite : OrderRow → Bool} {views : List OrderView}
    (hr : (OrderQuery.loadOrders filter).readReply r = .ok rows)
    (hviews : (rows.mapM fun row => row.view? (image row) (isFavourite row)) = .ok views) :
    (OrderQuery.loadOrders filter).Decodes r := by
  have hdecodes : ∀ rows, r.rows? OrderRow.ofRow? = .ok rows → ∀ row ∈ rows,
      ∃ s : OrderStatus, row.order.status = s.code := by
    intro rows' hrows' row hrow
    cases (mapError_eq_ok_iff.mp hr).symm.trans hrows'
    obtain ⟨view, hview⟩ := of_mem_of_mapM_eq_ok hviews row hrow
    obtain ⟨s, hs, -⟩ := map_eq_ok_iff.mp hview
    exact ⟨s, (OrderStatus.code_of_ofCode? hs).symm⟩
  cases filter with
  | inBasket owner => trivial
  | notInBasket owner => exact hdecodes
  | soldBy saler => exact hdecodes

theorem listOrders_obeys {filter : OrderFilter} {viewer : UserId}
    (hn : ∀ n ∈ call.pieces?, 0 < n) :
    (listOrders filter viewer).Obeys call.discipline (fun after _ => ∀ a ∈ after, a.Passed call)
      [] := by
  unfold listOrders
  refine Work.bind_obeys (ask_obeys hn (by simp) trivial) ?_
  rintro _ rows ⟨r, hr, rfl⟩
  have hg : ∃ rows, r.rows? OrderRow.ofRow? = .ok rows := ⟨rows, mapError_eq_ok_iff.mp hr⟩
  -- Whether the statuses mean something is not known before the listing ends.
  refine Work.bind_obeys (adorn_obeys hn (forall_mem_snoc (by simp) hg)) ?_
  rintro _ adornment ⟨more, hmore, rfl⟩
  refine Work.ofExcept_obeys ?_ ?_
  · intro e he
    obtain ⟨_, -, rfl⟩ := mapError_eq_error_iff.mp he
    rfl
  · intro views hviews
    have hd := decodes_of_views hr (mapError_eq_ok_iff.mp hviews)
    exact List.forall_mem_append.mpr ⟨passed_append (by simp) _ hg hd, hmore⟩

theorem work_obeys (call : OrderCall) :
    call.work.Obeys call.discipline (fun after _ => ∀ a ∈ after, a.Passed call) [] := by
  cases call with
  | add => exact Work.map_obeys addToBasket_obeys
  | setCount => exact Work.map_obeys setCount_obeys
  | setStatus =>
    exact Work.map_obeys (moveOrder_obeys (by simp [OrderCall.pieces?]) (by simp) fun _ hs => hs)
  | buy => exact Work.map_obeys buyBasket_obeys
  | delete => exact Work.map_obeys deleteFromBasket_obeys
  | basket => exact Work.map_obeys basketEntries_obeys
  | bought => exact Work.map_obeys (listOrders_obeys (by simp [OrderCall.pieces?]))
  | sold => exact Work.map_obeys (listOrders_obeys (by simp [OrderCall.pieces?]))

end

/-! ## Sessions -/

/-- No call goes on after an error. -/
theorem check_of_goesOn {call : OrderCall} {β : Type} {q : OrderQuery β} {r : Reply}
    (h : q.GoesOn call r) : r.check = .ok () := by
  cases r with
  | refused message =>
    exfalso
    cases q with
    | lockProduct product =>
      obtain ⟨_, -, _, h, -⟩ := h
      cases h
    | lockOrder order owner =>
      obtain ⟨_, _, _, h, -⟩ := h
      cases h
    | decrementStock | writeStatus | writeCount | deleteBasketOrder | basketOrderIds =>
      obtain ⟨_, h, -⟩ := h
      cases h
    | insertOrder | loadOrders | firstImages | favourites =>
      obtain ⟨_, h⟩ := h
      cases h
  | rows | affected | nothing => rfl

/-- A call on a session that has let it begin: what was asked from then on, and the reply to the
statement that ended it. `worked` is the result of its work. -/
structure Transacted (now : Instant) (call : OrderCall) (s : Session)
    (o : Outcome Session OrderError OrderAnswer) (worked : Except OrderError OrderAnswer)
    (asked : List (Asked OrderQuery)) (last : Reply) : Prop where
  /-- The work ends with `COMMIT` if it succeeds, and with `ROLLBACK` if not. -/
  exchanges : o.state.exchanges = s.exchanges ++ (begin, s.reply begin) ::
    asked.map (·.exchange (OrderQuery.statement now)) ++
      [(if worked.isOk then commit else rollback, last)]
  /-- A success is one of the work that was committed. -/
  result_eq_ok_iff : ∀ a, o.result = .ok a ↔ worked = .ok a ∧ last.check = .ok ()
  /-- A statement is sent only for a positive count, after replies that let the call go on and after
  those that it needs. -/
  justified : ∀ before a after, asked = before ++ a :: after →
    (∀ n ∈ call.pieces?, 0 < n) ∧
    (∀ b ∈ before, b.reply.check = .ok () ∧ b.question.GoesOn call b.reply) ∧
    a.question.Justified call before
  /-- Work that succeeds has met such replies only. -/
  passed : worked.isOk → ∀ a ∈ asked, a.Passed call

/-- A call that may begin is ended by one more statement, as its errors are no crashes. -/
theorem exists_transacted (now : Instant) (call : OrderCall) (s : Session) (hup : s.isUp)
    (hb : (s.reply begin).check = .ok ()) :
    let worked := (call.work.run (answerFrom Session.server (OrderQuery.statement now)
      OrderQuery.readReply) (s.send begin).2).result
    ∃ asked last, Transacted now call s (performOrder Session.server now call s) worked asked
      last := by
  obtain ⟨asked, hexchanges, hallows, hok, herror⟩ :=
    obeys_run (OrderQuery.statement now) (work_obeys call) (s.send begin).2
  dsimp only [OrderCall.discipline] at hexchanges hok herror
  generalize hran : call.work.run (answerFrom Session.server (OrderQuery.statement now)
    OrderQuery.readReply) (s.send begin).2 = ran at hexchanges hok herror ⊢
  have hend : transactOrders Session.server now call.work s = _ :=
    transact_of_not_crash hup hb hran herror
  refine ⟨asked, ran.state.reply (if ran.result.isOk then commit else rollback), ?_, ?_, ?_, ?_⟩
  · rw [performOrder, OrderCall.announce_state, hend, control_state]
    change ran.state.exchanges ++ _ = _
    rw [hexchanges]
    simp [Session.send]
  · intro a
    rw [performOrder, OrderCall.announce_result, hend]
    exact control_result_eq_ok_iff
  · rintro before a after rfl
    obtain ⟨hn, hg, hq⟩ := hallows.mayAsk
    exact ⟨hn, fun b hb => ⟨check_of_goesOn (hg b hb), hg b hb⟩, hq⟩
  · intro hisOk
    cases hr : ran.result with
    | error e =>
      rw [hr] at hisOk
      cases hisOk
    | ok a => exact hok a hr

/-- **Write discipline.** Whatever a session replies, a call on it that cannot connect or begin
fails and asks nothing. Any other sends only statements that are justified, each after replies that
let it go on, and then commits exactly if its work has succeeded. Which question a statement asks,
its text and its parameters tell; none of them is one of transaction control. -/
theorem write_discipline (now : Instant) (call : OrderCall) (s : Session) :
    let o := performOrder Session.server now call s
    let worked := (call.work.run (answerFrom Session.server (OrderQuery.statement now)
      OrderQuery.readReply) (s.send begin).2).result
    ((s.isUp = false ∧ o.result = .error (.storage .timedOut) ∧ o.state = s) ∨
      (s.isUp ∧ ∃ f, (s.reply begin).check = .error f ∧ o.result = .error (.storage f) ∧
        o.state.exchanges = s.exchanges ++ [(begin, s.reply begin)]) ∨
      (s.isUp ∧ (s.reply begin).check = .ok () ∧
        ∃ asked last, Transacted now call s o worked asked last)) ∧
    (Function.Injective fun q : (β : Type) × OrderQuery β => q.2.statement now) ∧
    ∀ (β : Type) (q : OrderQuery β), Session.isControl (q.statement now) = false := by
  intro o worked
  refine ⟨?_, OrderQuery.statement_injective now, fun _ => OrderQuery.isControl_statement now⟩
  have hresult : o.result = (transactOrders Session.server now call.work s).result :=
    call.announce_result _
  have hstate : o.state = (transactOrders Session.server now call.work s).state :=
    call.announce_state _
  cases hup : s.isUp with
  | false =>
    refine .inl ⟨rfl, ?_⟩
    rw [hresult, hstate, transactOrders, transact_of_down hup]
    exact ⟨rfl, rfl⟩
  | true =>
    cases hb : (s.reply begin).check with
    | error f =>
      refine .inr (.inl ⟨rfl, f, rfl, ?_⟩)
      rw [hresult, hstate, transactOrders, transact_of_refused hup hb]
      exact ⟨rfl, rfl⟩
    | ok =>
      exact .inr (.inr ⟨rfl, rfl, exists_transacted now call s hup hb⟩)

/-- A session that has one order in the basket of a buyer, two pieces of product 1, and takes all
writes. -/
def sellingSession : Session :=
  ⟨true, [], [.rows [[.integer 3]], .rows [[.integer 0, .integer 2, .integer 1]], .affected 1,
    .affected 1], []⟩

/-- A basket of one order is bought: its status is written after its pieces were taken, and the
transaction is committed. -/
theorem write_discipline_purchase :
    let o := performOrder Session.server .epoch (.buy 7) sellingSession
    sellingSession.isUp ∧ (sellingSession.reply begin).check = .ok () ∧
      o.result = .ok (.bought 1) ∧
      o.state.sent = [begin, Sql.basketOrderIds 7, Sql.lockOrder 3 7, Sql.decrementStock 1 2,
        Sql.writeStatus .epoch 3 .inBasket .inProcessing, commit] ∧
      ∃ asked last, Transacted .epoch (.buy 7) sellingSession o (.ok (.bought 1)) asked last := by
  obtain ⟨⟨hdown, -⟩ | ⟨-, _, hrefused, -⟩ | ⟨hup, hbegun, h⟩, -⟩ :=
    write_discipline .epoch (.buy 7) sellingSession
  · cases hdown
  · cases hrefused
  · exact ⟨hup, hbegun, by decide +kernel, by decide +kernel, h⟩

/-- A listing asks for images and favourites also when the status code of one of its rows means
nothing: the codes are read last. -/
theorem listing_asks_after_unknown_status :
    let row : List Value := [.integer 4, .integer 7, .integer 1, .integer 2, .integer 9,
      .text "2024-01-01T00:00:00Z", .text "2024-02-03T04:05:06.789012Z", .integer 100,
      .text "Lamp", .text "1500.00", .text "Moscow", .integer 5, .boolean false, .boolean true]
    let o := performOrder Session.server .epoch (.bought 7)
      ⟨true, [], [.rows [row], .rows [], .rows []], []⟩
    o.result = .error (.unknownStatus ⟨.orderStatus, 9⟩) ∧
      o.state.sent = [begin, Sql.loadOrders (.notInBasket 7), Sql.firstImages [1],
        Sql.favourites 7 [1], rollback] := by
  decide +kernel

end Marketplace
