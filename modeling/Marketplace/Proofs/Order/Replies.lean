import Marketplace.Proofs.Order.Columns
import Marketplace.Proofs.Order.ExactListing
import Marketplace.Proofs.Order.Statements
import Marketplace.Proofs.Sql.Session

/-!
# Listings of whatever a server replies

A listing is made of three replies: its rows, and the images and the favourites of their products.
The server may reply with any rows, in any order, more than once, and of products that nobody asked
about.

* `firstUrl?`: the image of a product among replied images.
* `OrderRow.entryWith` and `OrderRow.viewAs`: what a listing shows of a row.
* `Session.Lists`: a session that replies to a listing, and refuses nothing. Its rows are read from
  the columns of these names (`Reply.orderRows_eq_ok_iff`, `Reply.imageRows_eq_ok_iff`).
* `adorn_returns_replied`, `basketEntries_returns_replied`, `listOrders_returns_replied`,
  `listOrders_fails_replied`: what the work of a listing makes of the replies, and what it asks.
* `listings_as_replied`: the outcome of every listing.
-/

namespace Marketplace

open Sql Sql.Session

/-! ## Rows and images -/

theorem OrderStatus.exists_code_iff {c : Int16} :
    (∃ s : OrderStatus, c = s.code) ↔ 0 ≤ c ∧ c ≤ 3 := by
  constructor
  · rintro ⟨s, rfl⟩
    cases s <;> decide
  · rintro ⟨hzero, hthree⟩
    have hzero : 0 ≤ c.toInt := Int16.le_iff_toInt_le.mp hzero
    have hthree : c.toInt ≤ 3 := Int16.le_iff_toInt_le.mp hthree
    obtain h | h | h | h : c.toInt = 0 ∨ c.toInt = 1 ∨ c.toInt = 2 ∨ c.toInt = 3 := by omega
    · exact ⟨.inBasket, Int16.toInt_inj.mp h⟩
    · exact ⟨.inProcessing, Int16.toInt_inj.mp h⟩
    · exact ⟨.paid, Int16.toInt_inj.mp h⟩
    · exact ⟨.closed, Int16.toInt_inj.mp h⟩

theorem OrderStatus.ofCode?_eq_error {c : Int16} (h : ¬ ∃ s : OrderStatus, c = s.code) :
    ofCode? c = .error ⟨.orderStatus, c⟩ := by
  cases hc : ofCode? c with
  | ok s => exact (h ⟨s, (code_of_ofCode? hc).symm⟩).elim
  | error e =>
    unfold ofCode? at hc
    split at hc
    · cases hc
    · exact hc.symm

namespace OrderRow

variable {r : OrderRow} {image : Option String} {isFavourite : Bool}

/-- Whether the status code of a row is none of those from 0 to 3. -/
def hasUnknownStatus (r : OrderRow) : Bool := r.order.status < 0 || 3 < r.order.status

/-- The row as an entry of a basket. -/
def entryWith (r : OrderRow) (image : Option String) (isFavourite : Bool) : BasketEntry :=
  { id := r.order.id, owner := r.order.owner, product := r.order.product, count := r.order.count,
    offer := r.offer, available := r.available, image, isFavourite,
    createdAt := r.order.createdAt }

theorem basketEntry_eq (r : OrderRow) (image : Option String) (isFavourite : Bool) :
    r.basketEntry image isFavourite = r.entryWith image isFavourite := rfl

/-- The row as an order of the given status. -/
def viewAs (r : OrderRow) (status : OrderStatus) (image : Option String) (isFavourite : Bool) :
    OrderView :=
  { id := r.order.id, owner := r.order.owner, product := r.order.product, count := r.order.count,
    status, offer := r.offer, image, isFavourite, createdAt := r.order.createdAt,
    updatedAt := r.order.updatedAt }

theorem hasUnknownStatus_eq_false_iff :
    r.hasUnknownStatus = false ↔ ∃ s : OrderStatus, r.order.status = s.code := by
  rw [OrderStatus.exists_code_iff, hasUnknownStatus]
  simp

theorem view?_eq_ok {s : OrderStatus} (h : r.order.status = s.code) :
    r.view? image isFavourite = .ok (r.viewAs s image isFavourite) := by
  rw [view?, h, OrderStatus.ofCode?_code]
  rfl

theorem view?_eq_error (h : r.hasUnknownStatus) :
    r.view? image isFavourite = .error ⟨.orderStatus, r.order.status⟩ := by
  have hnone : ¬ ∃ s : OrderStatus, r.order.status = s.code := by
    rw [← hasUnknownStatus_eq_false_iff, h]
    decide
  rw [view?, OrderStatus.ofCode?_eq_error hnone]
  rfl

end OrderRow

/-- The address in the first of these rows that is of a product. -/
def firstUrl? (images : List (ProductId × String)) (id : ProductId) : Option String :=
  (images.find? (·.1 = id)).map (·.2)

/-- Rows behind the first one of a product are not kept. -/
theorem get?_foldl_first (images : List (ProductId × String)) (t : Table String) (id : ProductId) :
    (images.foldl (fun t r => if (t.get? r.1).isSome then t else t.insert r.1 r.2) t).get? id
      = (t.get? id).or (firstUrl? images id) := by
  -- By induction on the rows, over every table: what is in it came from earlier rows.
  induction images generalizing t with
  | nil => simp [firstUrl?]
  | cons r images ih =>
    rw [List.foldl_cons, ih]
    by_cases hid : r.1 = id
    · subst hid
      cases ht : t.get? r.1 <;> simp [ht, firstUrl?, Table.get?_insert]
    · have hskip : firstUrl? (r :: images) id = firstUrl? images id := by simp [firstUrl?, hid]
      rw [hskip]
      split
      · rfl
      · rw [Table.get?_insert, if_neg hid]

theorem get?_firstOfEach (images : List (ProductId × String)) (id : ProductId) :
    (firstOfEach images).get? id = firstUrl? images id := by
  rw [firstOfEach, get?_foldl_first, Table.get?_empty, Option.none_or]

/-- The order that a row shows: its status means something, and image and favourite are those that
are replied of its product. -/
def OrderRow.Shows (images : List (ProductId × String)) (favourites : List ProductId)
    (r : OrderRow) (v : OrderView) : Prop :=
  ∃ status : OrderStatus, r.order.status = status.code ∧
    r.viewAs status (firstUrl? images r.order.product) (favourites.contains r.order.product) = v

/-- The keys stand in increasing order, each once. -/
theorem distinct_pairwise (keys : List Int64) : (distinct keys).Pairwise (· < ·) := by
  rw [distinct, Table.keys, List.pairwise_map]
  exact Table.increasing _

/-! ## The work of a listing -/

/-- How a session answers questions about orders, with the clock at `now`. -/
abbrev Sql.Session.answer (now : Instant) {β : Type} (question : OrderQuery β) (s : Session) :
    Outcome Session OrderError β :=
  answerFrom Session.server (OrderQuery.statement now) OrderQuery.readReply question s

/-- A session that replies to a listing with these rows, and to what is asked about them with these
images and favourites. It refuses no statement of transaction control. -/
structure Sql.Session.Lists (s : Session) (rows : List OrderRow)
    (images : List (ProductId × String)) (favourites : List ProductId) : Prop where
  isUp : s.isUp
  accepts : ∀ statement, isControl statement → (s.reply statement).check = .ok ()
  listed : (s.replyAt 0).rows? OrderRow.ofRow? = .ok rows
  pictured : rows ≠ [] → (s.replyAt 1).rows? imageRow = .ok images
  favoured : rows ≠ [] → (s.replyAt 2).rows? (singleColumn Value.int64?) = .ok favourites

/-- What is asked about the rows of a listing. -/
def followUps (viewer : UserId) (rows : List OrderRow) : List Statement :=
  let products := distinct (rows.map (·.order.product))
  if rows = [] then [] else [Sql.firstImages products, Sql.favourites viewer products]

section

variable {s : Session} {rows : List OrderRow} {images : List (ProductId × String)}
  {favourites : List ProductId} {now : Instant} {user viewer : UserId} {filter : OrderFilter}

theorem distinct_eq_nil_iff : distinct (rows.map (·.order.product)) = [] ↔ rows = [] := by
  constructor
  · intro h
    rw [List.eq_nil_iff_forall_not_mem]
    intro r hr
    have hasked := mem_distinct.mpr (List.mem_map_of_mem (f := (·.order.product)) hr)
    rw [h] at hasked
    cases hasked
  · rintro rfl
    rfl

/-- Each question about orders uses up one prepared reply. -/
theorem questions_append_statement (now : Instant) (statements : List Statement) {β : Type}
    (q : OrderQuery β) :
    questions (statements ++ [q.statement now]) = questions statements + 1 := by
  simp [questions, OrderQuery.isControl_statement]

/-- A question about orders is one more statement. -/
theorem ask_returns_after {statements : List Statement} {β : Type} {q : OrderQuery β} {b : β}
    (hread : q.readReply (s.replyAt (questions statements)) = .ok b) :
    (Work.query q : OrderWork β).Returns (Session.answer now) (s.after statements) b
      (s.after (statements ++ [q.statement now])) :=
  query_returns_after (OrderQuery.isControl_statement now q) hread

theorem loadOrders_returns_replied (h : s.Lists rows images favourites) :
    (Work.query (.loadOrders filter) : OrderWork (List OrderRow)).Returns (Session.answer now)
      (s.after [begin]) rows (s.after [begin, Sql.loadOrders filter]) :=
  ask_returns_after (mapError_eq_ok_iff.mpr h.listed)

/-- A listing asks about its rows, if it has any, and each row gets what is replied of its
product. -/
theorem adorn_returns_replied (now : Instant) (filter : OrderFilter) (viewer : UserId)
    (h : s.Lists rows images favourites) :
    ∃ a, (adorn viewer rows).Returns (Session.answer now) (s.after [begin, Sql.loadOrders filter]) a
        (s.after (begin :: Sql.loadOrders filter :: followUps viewer rows)) ∧
      ∀ r ∈ rows, a.image r = firstUrl? images r.order.product ∧
        a.isFavourite r = favourites.contains r.order.product := by
  unfold adorn followUps
  dsimp only
  by_cases hrows : rows = []
  · rw [if_pos (distinct_eq_nil_iff.mpr hrows), if_pos hrows]
    exact ⟨_, Work.done_returns.mpr ⟨rfl, rfl⟩, fun r hr => by simp [hrows] at hr⟩
  · rw [if_neg (distinct_eq_nil_iff.not.mpr hrows), if_neg hrows]
    generalize distinct (rows.map (·.order.product)) = products
    -- `BEGIN` uses up no prepared reply, so the images are read from the second one.
    have hone : questions [begin, Sql.loadOrders filter] = 1 :=
      questions_append_statement now [begin] (.loadOrders filter)
    have htwo : questions [begin, Sql.loadOrders filter, Sql.firstImages products] = 2 :=
      (questions_append_statement now _ (.firstImages products)).trans
        (congrArg (· + 1) hone)
    have himages : (OrderQuery.firstImages products).readReply
        (s.replyAt (questions [begin, Sql.loadOrders filter])) = .ok (firstOfEach images) := by
      rw [hone, OrderQuery.readReply, h.pictured hrows]
      rfl
    have hfavourites : (OrderQuery.favourites viewer products).readReply (s.replyAt
        (questions [begin, Sql.loadOrders filter, Sql.firstImages products])) = .ok favourites := by
      rw [htwo, OrderQuery.readReply, h.favoured hrows]
      rfl
    refine ⟨⟨firstOfEach images, favourites⟩, ?_, fun r _ => ⟨get?_firstOfEach _ _, rfl⟩⟩
    refine Work.bind_returns.mpr ⟨_, _, ask_returns_after himages, ?_⟩
    refine Work.bind_returns.mpr ⟨_, _, ask_returns_after hfavourites, ?_⟩
    exact Work.done_returns.mpr ⟨rfl, rfl⟩

theorem basketEntries_returns_replied (now : Instant) (user : UserId)
    (h : s.Lists rows images favourites) :
    (basketEntries user).Returns (Session.answer now) (s.after [begin])
      (rows.map fun r => r.entryWith (firstUrl? images r.order.product)
        (favourites.contains r.order.product))
      (s.after (begin :: Sql.loadOrders (.inBasket user) :: followUps user rows)) := by
  obtain ⟨a, hadorn, ha⟩ := adorn_returns_replied now (.inBasket user) user h
  refine Work.bind_returns.mpr ⟨rows, _, loadOrders_returns_replied h, ?_⟩
  refine Work.bind_returns.mpr ⟨a, _, hadorn, Work.done_returns.mpr ⟨?_, rfl⟩⟩
  refine List.map_congr_left fun r hr => ?_
  rw [OrderRow.basketEntry_eq, (ha r hr).1, (ha r hr).2]

/-- Rows whose statuses mean something are shown one by one. -/
theorem listOrders_returns_replied (now : Instant) (filter : OrderFilter) (viewer : UserId)
    (h : s.Lists rows images favourites)
    (hknown : rows.find? OrderRow.hasUnknownStatus = none) :
    ∃ views, rows.Forall₂ (OrderRow.Shows images favourites) views ∧
      (listOrders filter viewer).Returns (Session.answer now) (s.after [begin]) views
        (s.after (begin :: Sql.loadOrders filter :: followUps viewer rows)) := by
  obtain ⟨a, hadorn, ha⟩ := adorn_returns_replied now filter viewer h
  have hshown : ∀ r ∈ rows, ∃ v, r.Shows images favourites v ∧
      r.view? (a.image r) (a.isFavourite r) = .ok v := by
    intro r hr
    obtain ⟨status, hs⟩ := OrderRow.hasUnknownStatus_eq_false_iff.mp
      (by simpa using List.find?_eq_none.mp hknown r hr)
    rw [(ha r hr).1, (ha r hr).2]
    exact ⟨_, ⟨status, hs, rfl⟩, OrderRow.view?_eq_ok hs⟩
  obtain ⟨views, hviews⟩ := exists_forall₂_of_forall_mem hshown
  refine ⟨views, hviews.imp fun _ _ h => h.1, ?_⟩
  have hread := mapM_eq_ok_iff.mpr (hviews.imp fun _ _ h => h.2)
  refine Work.bind_returns.mpr ⟨rows, _, loadOrders_returns_replied h, ?_⟩
  refine Work.bind_returns.mpr ⟨a, _, hadorn, Work.ofExcept_returns.mpr ⟨?_, rfl⟩⟩
  exact mapError_eq_ok_iff.mpr hread

/-- The first row whose status means nothing fails a listing, at its end. -/
theorem listOrders_fails_replied {r : OrderRow} (h : s.Lists rows images favourites)
    (hfirst : rows.find? OrderRow.hasUnknownStatus = some r) :
    (listOrders filter viewer).Fails (Session.answer now) (s.after [begin])
      (.unknownStatus ⟨.orderStatus, r.order.status⟩)
      (s.after (begin :: Sql.loadOrders filter :: followUps viewer rows)) := by
  obtain ⟨a, hadorn, -⟩ := adorn_returns_replied now filter viewer h
  have hread : ∀ r ∈ rows, r.hasUnknownStatus = false →
      ∃ v, r.view? (a.image r) (a.isFavourite r) = .ok v := by
    intro r _ hknown
    obtain ⟨status, hs⟩ := OrderRow.hasUnknownStatus_eq_false_iff.mp hknown
    exact ⟨_, OrderRow.view?_eq_ok hs⟩
  -- The images and the favourites are asked for before any status is read.
  have hviews := mapM_eq_error_of_find? hread hfirst
    (OrderRow.view?_eq_error (List.find?_some hfirst))
  refine Work.bind_fails_right rows (loadOrders_returns_replied h) ?_
  refine Work.bind_fails_right a hadorn (Work.ofExcept_fails.mpr ⟨?_, rfl⟩)
  exact mapError_eq_error_iff.mpr ⟨_, hviews, rfl⟩

/-! ## The outcome of a listing -/

theorem performOrder_of_returns {a : OrderAnswer} {statements : List Statement} (call : OrderCall)
    (h : s.Lists rows images favourites) (hwork : call.work.Returns (Session.answer now)
      (s.after [begin]) a (s.after (begin :: statements))) :
    let o := performOrder Session.server now call s
    o.result = .ok a ∧ o.state.sent = s.sent ++ begin :: statements ++ [commit] := by
  intro o
  obtain ⟨hresult, hsent⟩ : (transactOrders Session.server now call.work s).result = .ok a ∧
      (transactOrders Session.server now call.work s).state.sent = _ :=
    transact_returns_after h.isUp h.accepts hwork
  exact ⟨(call.announce_result _).trans hresult,
    (congrArg sent (call.announce_state _)).trans hsent⟩

theorem performOrder_of_fails {e : OrderError} {statements : List Statement} (call : OrderCall)
    (h : s.Lists rows images favourites) (hwork : call.work.Fails (Session.answer now)
      (s.after [begin]) e (s.after (begin :: statements))) (hcrash : e.isCrash = false) :
    let o := performOrder Session.server now call s
    o.result = .error e ∧ o.state.sent = s.sent ++ begin :: statements ++ [rollback] := by
  intro o
  obtain ⟨hresult, hsent⟩ : (transactOrders Session.server now call.work s).result = .error e ∧
      (transactOrders Session.server now call.work s).state.sent = _ :=
    transact_fails_after h.isUp h.accepts hwork hcrash
  exact ⟨(call.announce_result _).trans hresult,
    (congrArg sent (call.announce_state _)).trans hsent⟩

end

/-! ## Lamps -/

/-- An order of a lamp. -/
def lamp (id : OrderId) (product : ProductId) (status : Int16) : OrderRow :=
  ⟨⟨id, 7, product, 2, status, .epoch, .epoch⟩, ⟨100, "Lamp", .ofInt 15, "Moscow", false, true⟩, 5⟩

/-- An order of a lamp, as a server replies it. -/
def lampColumns (id product status : Int) : List Value :=
  [.integer id, .integer 7, .integer product, .integer 2, .integer status,
    .text "1970-01-01T00:00:00Z", .text "1970-01-01T00:00:00Z", .integer 100, .text "Lamp",
    .text "15", .text "Moscow", .integer 5, .boolean false, .boolean true]

/-- Lamps out of order, one with a status that means nothing, an image of a product that nobody
asked about, and a second image of one that is listed. -/
def lampSession : Session :=
  ⟨true, [], [.rows [lampColumns 4 3 1, lampColumns 9 1 8, lampColumns 5 3 0],
    .rows [[.integer 2, .text "stray"], [.integer 3, .text "front"], [.integer 3, .text "back"]],
    .rows [[.integer 6], [.integer 1]]], []⟩

/-- The entry of a basket that such an order is. -/
def lampEntry (id : OrderId) (product : ProductId) (image : Option String) (isFavourite : Bool) :
    BasketEntry :=
  ⟨id, 7, product, 2, ⟨100, "Lamp", .ofInt 15, "Moscow", false, true⟩, 5, image, isFavourite, .epoch⟩

end Marketplace
