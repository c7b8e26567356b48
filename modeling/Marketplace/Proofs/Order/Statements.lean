import Mathlib.Data.List.Nodup
import Marketplace.Order.Statements

/-!
# The statements of questions about orders

A statement tells the question that it asks. `OrderQuery.ofStatement?` reads the question back: the
text tells its kind (`texts_nodup`), the parameters tell the rest. So different questions have
different statements (`statement_injective`).
-/

namespace Marketplace

namespace OrderQuery

/-- The texts of the statements, one for each kind of question. -/
def texts : List String :=
  [(Sql.lockProduct 0).sql, (Sql.decrementStock 0 0).sql, (Sql.insertOrder ⟨0, 0, 0, 0⟩).sql,
    (Sql.lockOrder 0 0).sql, (Sql.writeStatus .epoch 0 .inBasket .inBasket).sql,
    (Sql.writeCount .epoch 0 0 0).sql, (Sql.deleteBasketOrder 0 0).sql, (Sql.basketOrderIds 0).sql,
    (Sql.loadOrders (.inBasket 0)).sql, (Sql.loadOrders (.notInBasket 0)).sql,
    (Sql.loadOrders (.soldBy 0)).sql, (Sql.firstImages []).sql, (Sql.favourites 0 []).sql]

/-- The place of a question's text among the texts. -/
def textIndex : {β : Type} → OrderQuery β → Nat
  | _, lockProduct _ => 0
  | _, decrementStock _ _ => 1
  | _, insertOrder _ => 2
  | _, lockOrder _ _ => 3
  | _, writeStatus _ _ _ => 4
  | _, writeCount _ _ _ => 5
  | _, deleteBasketOrder _ _ => 6
  | _, basketOrderIds _ => 7
  | _, loadOrders (.inBasket _) => 8
  | _, loadOrders (.notInBasket _) => 9
  | _, loadOrders (.soldBy _) => 10
  | _, firstImages _ => 11
  | _, favourites _ _ => 12

theorem texts_nodup : texts.Nodup := by decide +kernel

theorem texts_getElem? (now : Instant) {β : Type} (q : OrderQuery β) :
    texts[q.textIndex]? = some (q.statement now).sql := by
  cases q with
  | loadOrders filter => cases filter <;> rfl
  | _ => rfl

theorem idxOf_sql (now : Instant) {β : Type} (q : OrderQuery β) :
    texts.idxOf (q.statement now).sql = q.textIndex := by
  obtain ⟨hlt, hsql⟩ := List.getElem?_eq_some_iff.mp (texts_getElem? now q)
  rw [← hsql]
  exact texts_nodup.idxOf_getElem _ hlt

/-- A status with this stored code. -/
def status? (code : Int) : Option OrderStatus := (OrderStatus.ofCode? (.ofInt code)).toOption

/-- The question with a kind of text and these parameters. -/
def ofParams? : Nat → List Sql.Param → Option ((β : Type) × OrderQuery β)
  | 0, [.integer product] => some ⟨_, lockProduct (.ofInt product)⟩
  | 1, [.integer count, .integer product, _] =>
    some ⟨_, decrementStock (.ofInt product) (.ofInt count)⟩
  | 2, [.integer owner, .integer product, .integer count, .integer status] =>
    some ⟨_, insertOrder ⟨.ofInt owner, .ofInt product, .ofInt count, .ofInt status⟩⟩
  | 3, [.integer order, .integer owner] => some ⟨_, lockOrder (.ofInt order) (.ofInt owner)⟩
  | 4, [.integer target, _, .integer order, .integer source] =>
    (status? source).bind fun source => (status? target).map fun target =>
      ⟨_, writeStatus (.ofInt order) source target⟩
  | 5, [.integer count, _, .integer order, .integer owner, _] =>
    some ⟨_, writeCount (.ofInt order) (.ofInt owner) (.ofInt count)⟩
  | 6, [.integer order, .integer owner, _] =>
    some ⟨_, deleteBasketOrder (.ofInt order) (.ofInt owner)⟩
  | 7, [.integer owner, _] => some ⟨_, basketOrderIds (.ofInt owner)⟩
  | 8, [.integer user, _] => some ⟨_, loadOrders (.inBasket (.ofInt user))⟩
  | 9, [.integer user, _] => some ⟨_, loadOrders (.notInBasket (.ofInt user))⟩
  | 10, [.integer user, _] => some ⟨_, loadOrders (.soldBy (.ofInt user))⟩
  | 11, [.integers products] => some ⟨_, firstImages products⟩
  | 12, [.integer owner, .integers products] => some ⟨_, favourites (.ofInt owner) products⟩
  | _, _ => none

/-- The question that a statement asks. -/
def ofStatement? (statement : Sql.Statement) : Option ((β : Type) × OrderQuery β) :=
  statement.params.bind (ofParams? (texts.idxOf statement.sql))

theorem status?_code (s : OrderStatus) : status? s.code.toInt = some s := by
  rw [status?, Int16.ofInt_toInt, OrderStatus.ofCode?_code]
  rfl

theorem ofStatement?_statement (now : Instant) {β : Type} (q : OrderQuery β) :
    ofStatement? (q.statement now) = some ⟨β, q⟩ := by
  rw [ofStatement?, idxOf_sql]
  cases q with
  | loadOrders filter =>
    cases filter <;> simp [textIndex, statement, Sql.loadOrders, Sql.Statement.bound, ofParams?]
  | lockProduct =>
    simp [textIndex, statement, Sql.lockProduct, Sql.Statement.bound, ofParams?]
  | decrementStock =>
    simp [textIndex, statement, Sql.decrementStock, Sql.Statement.bound, ofParams?]
  | insertOrder =>
    simp [textIndex, statement, Sql.insertOrder, Sql.Statement.bound, ofParams?]
  | lockOrder =>
    simp [textIndex, statement, Sql.lockOrder, Sql.Statement.bound, ofParams?]
  | writeStatus =>
    simp [textIndex, statement, Sql.writeStatus, Sql.Statement.bound, ofParams?, status?_code]
  | writeCount =>
    simp [textIndex, statement, Sql.writeCount, Sql.Statement.bound, ofParams?]
  | deleteBasketOrder =>
    simp [textIndex, statement, Sql.deleteBasketOrder, Sql.Statement.bound, ofParams?]
  | basketOrderIds =>
    simp [textIndex, statement, Sql.basketOrderIds, Sql.Statement.bound, ofParams?]
  | firstImages =>
    simp [textIndex, statement, Sql.firstImages, Sql.Statement.bound, ofParams?]
  | favourites =>
    simp [textIndex, statement, Sql.favourites, Sql.Statement.bound, ofParams?]

theorem statement_injective (now : Instant) :
    Function.Injective fun q : (β : Type) × OrderQuery β => q.2.statement now := by
  rintro ⟨β, q⟩ ⟨β', q'⟩ h
  have hq := congrArg ofStatement? h
  rw [ofStatement?_statement, ofStatement?_statement] at hq
  exact Option.some.inj hq

/-- No question is asked by a statement of transaction control. -/
theorem isControl_statement (now : Instant) {β : Type} (q : OrderQuery β) :
    Sql.Session.isControl (q.statement now) = false := by
  have hparams : (q.statement now).params ≠ none := by
    cases q with
    | loadOrders filter => cases filter <;> exact Option.some_ne_none _
    | _ => exact Option.some_ne_none _
  have hne {sql : String} : q.statement now ≠ .plain sql :=
    fun h => hparams (congrArg Sql.Statement.params h)
  simp [Sql.Session.isControl, Sql.begin, Sql.commit, Sql.rollback, hne]

end OrderQuery

end Marketplace
