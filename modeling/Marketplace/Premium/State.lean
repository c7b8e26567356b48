import Marketplace.Premium.Error

/-!
# The state of a promotion

A `PremiumState` moves by checkouts of the saler and by reports of the payment provider.
`PremiumState.advance` is one such move: a payment that succeeds opens a window of the period that
was checked out, and a running window outlives a canceled payment.
-/

namespace Marketplace

/-- The promotion of a product. -/
structure PremiumState where
  status : PremiumStatus
  /-- The period of the latest checkout, the only one that a payment may settle. -/
  period : Option PremiumPeriod
  /-- The start of the latest window. -/
  begin : Option Instant
  /-- The end of the latest window. -/
  expire : Option Instant
  deriving DecidableEq, Repr

/-- A move of a promotion, with its time. -/
inductive PremiumChange where
  /-- The saler asks to pay for a promotion. -/
  | checkout (period : PremiumPeriod) (now : Instant)
  /-- The payment provider reports a status of the payment. -/
  | payment (status : PremiumStatus) (period : PremiumPeriod) (now : Instant)
  deriving DecidableEq, Repr

/-- When a change happens. -/
def PremiumChange.now : PremiumChange → Instant
  | checkout _ now | payment _ _ now => now

namespace PremiumState

/-- A product that was never promoted. -/
def inactive : PremiumState := ⟨.inactive, none, none, none⟩

/-- Whether the window is open at `now`. -/
def IsRunning (s : PremiumState) (now : Instant) : Prop := ∃ expire ∈ s.expire, now < expire

instance (s : PremiumState) (now : Instant) : Decidable (s.IsRunning now) :=
  match h : s.expire with
  | none => isFalse (by simp [IsRunning, h])
  | some expire =>
    if hlt : now < expire then isTrue ⟨expire, h, hlt⟩
    else isFalse (by simpa [IsRunning, h] using hlt)

/-- Fails unless the table allows the move. -/
def checkMove (source target : PremiumStatus) : Except PaymentError Unit :=
  if source.canBecome target then .ok () else .error (.invalidTransition source target)

/-- Fails unless `period` is the one that was checked out. -/
def checkPeriod (s : PremiumState) (period : PremiumPeriod) : Except PaymentError Unit :=
  if s.period = some period then .ok () else .error (.periodMismatch s.period period)

/-- Fails while the window is open. -/
def checkExpired (s : PremiumState) (now : Instant) : Except PaymentError Unit :=
  match s.expire with
  | some expire => if now < expire then .error (.promotionRunning expire) else .ok ()
  | none => .ok ()

/-- The state with a window of `period` that opens at `now`. -/
def openWindow (s : PremiumState) (period : PremiumPeriod) (now : Instant) :
    Except PaymentError PremiumState :=
  match now.plusDays? period.days with
  | some expire => .ok { s with status := .succeeded, begin := some now, expire := some expire }
  | none => .error .windowOutOfRange

/-- The state after a change. A checkout that repeats a pending one changes nothing, and no checkout
starts while the window is open. -/
def advance (s : PremiumState) : PremiumChange → Except PaymentError PremiumState
  | .checkout period now =>
    if s.status = .pending then do
      s.checkPeriod period
      return s
    else do
      s.checkExpired now
      checkMove s.status .pending
      return { s with status := .pending, period := some period }
  | .payment status period now => do
    checkMove s.status status
    s.checkPeriod period
    if status = .succeeded then s.openWindow period now
    else if status = .canceled ∧ s.IsRunning now then return { s with status := .succeeded }
    else return { s with status }

/-- The state after a change, which is the same if the change is refused. -/
def step (s : PremiumState) (change : PremiumChange) : PremiumState :=
  match s.advance change with
  | .ok next => next
  | .error _ => s

/-- The state after a list of changes. -/
def run (s : PremiumState) (changes : List PremiumChange) : PremiumState := changes.foldl step s

end PremiumState

end Marketplace
