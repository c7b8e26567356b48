import Marketplace.Storage

/-!
# The statuses of a premium promotion

A promotion follows the payment that it is paid with. `PremiumStatus.canBecome` is the table of its
moves; `PremiumStatus.code` is the stored number and `PremiumStatus.ofCode?` reads it back.
-/

namespace Marketplace

/-- How far the payment of a promotion has come. -/
inductive PremiumStatus where
  | inactive
  | pending
  | waitingForCapture
  | succeeded
  | canceled
  deriving DecidableEq, Repr

namespace PremiumStatus

def all : List PremiumStatus := [inactive, pending, waitingForCapture, succeeded, canceled]

/-- The stored number. -/
def code : PremiumStatus → Int16
  | inactive => 0
  | pending => 1
  | waitingForCapture => 2
  | succeeded => 3
  | canceled => 4

/-- The status with a stored code. -/
def ofCode? (code : Int16) : Except UnknownCode PremiumStatus :=
  match all.find? (·.code = code) with
  | some status => .ok status
  | none => .error ⟨.premiumStatus, code⟩

/-- The name on the wire. -/
def name : PremiumStatus → String
  | inactive => "inactive"
  | pending => "pending"
  | waitingForCapture => "waiting_for_capture"
  | succeeded => "succeeded"
  | canceled => "canceled"

/-- The name in messages. -/
def label : PremiumStatus → String
  | inactive => "Inactive"
  | pending => "Pending"
  | waitingForCapture => "WaitingForCapture"
  | succeeded => "Succeeded"
  | canceled => "Canceled"

/-- The moves of a payment: a settled one may be followed by a new one, a pending one may wait for
its capture, and either may succeed or be canceled. -/
def canBecome : PremiumStatus → PremiumStatus → Bool
  | inactive, pending | canceled, pending | succeeded, pending => true
  | pending, waitingForCapture | pending, succeeded | pending, canceled => true
  | waitingForCapture, succeeded | waitingForCapture, canceled => true
  | _, _ => false

@[simp] theorem ofCode?_code (s : PremiumStatus) : ofCode? s.code = .ok s := by cases s <;> rfl

end PremiumStatus

end Marketplace
