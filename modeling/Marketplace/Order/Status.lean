import Marketplace.Storage

/-!
# The statuses of an order

An order starts in the basket and moves forward only. `<` and `≤` compare how far it has come,
`OrderStatus.code` is the stored number and `OrderStatus.ofCode?` reads it back.
-/

namespace Marketplace

/-- How far an order has come. -/
inductive OrderStatus where
  | inBasket
  | inProcessing
  | paid
  | closed
  deriving DecidableEq, Repr

namespace OrderStatus

/-- All statuses, in the order in which they can be reached. -/
def all : List OrderStatus := [inBasket, inProcessing, paid, closed]

/-- The stored number. -/
def code : OrderStatus → Int16
  | inBasket => 0
  | inProcessing => 1
  | paid => 2
  | closed => 3

/-- The status with a stored code. -/
def ofCode? (code : Int16) : Except UnknownCode OrderStatus :=
  match all.find? (·.code = code) with
  | some status => .ok status
  | none => .error ⟨.orderStatus, code⟩

/-- The name on the wire. -/
def name : OrderStatus → String
  | inBasket => "in_basket"
  | inProcessing => "in_processing"
  | paid => "paid"
  | closed => "closed"

/-- The name in messages. -/
def label : OrderStatus → String
  | inBasket => "InBasket"
  | inProcessing => "InProcessing"
  | paid => "Paid"
  | closed => "Closed"

instance : LT OrderStatus where lt a b := a.code < b.code

instance : LE OrderStatus where le a b := a.code ≤ b.code

theorem lt_def {a b : OrderStatus} : a < b ↔ a.code < b.code := Iff.rfl

theorem le_def {a b : OrderStatus} : a ≤ b ↔ a.code ≤ b.code := Iff.rfl

instance (a b : OrderStatus) : Decidable (a < b) := decidable_of_iff _ lt_def.symm

instance (a b : OrderStatus) : Decidable (a ≤ b) := decidable_of_iff _ le_def.symm

@[simp] theorem ofCode?_code (s : OrderStatus) : ofCode? s.code = .ok s := by cases s <;> rfl

theorem code_of_ofCode? {c : Int16} {s : OrderStatus} (h : ofCode? c = .ok s) : s.code = c := by
  unfold ofCode? at h
  split at h
  · rename_i hs
    cases h
    simpa using List.find?_some hs
  · cases h

theorem not_lt {a b : OrderStatus} : ¬ a < b ↔ b ≤ a := by cases a <;> cases b <;> decide

theorem code_inj {a b : OrderStatus} : a.code = b.code ↔ a = b := by
  cases a <;> cases b <;> decide

end OrderStatus

end Marketplace
