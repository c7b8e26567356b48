import Marketplace.Premium.Checkout
import Marketplace.Sql.Server

/-!
# Promotions kept in a database

A promotion is four columns of its product's row.

* `PremiumRow` is that part of a row, with codes for status and period; `PremiumRow.state?` reads
  the codes and `PremiumState.params` writes them.
* `updateRow` is one change as a unit of work: it locks the row, checks whose it is, reads the
  codes, makes the change and writes the row unless nothing changed.
* `updateOnServer` runs it as one transaction on a server.
-/

namespace Marketplace

open Sql

/-- What a product's row says about its promotion. -/
structure PremiumRow where
  saler : Int64
  status : Int16
  period : Option Int16
  begin : Option Instant
  expire : Option Instant
  deriving DecidableEq, Repr

/-- The promotion of a row; the status code is read before the period code. -/
def PremiumRow.state? (r : PremiumRow) : Except UnknownCode PremiumState := do
  let status ← PremiumStatus.ofCode? r.status
  let period ← r.period.mapM PremiumPeriod.ofStored?
  return ⟨status, period, r.begin, r.expire⟩

/-- A question about one row. -/
inductive PremiumRowQuery : Type → Type where
  /-- The row of a product, to be held until the work ends. -/
  | lock (product : Int64) : PremiumRowQuery (Option PremiumRow)
  /-- Writes a promotion into the row of a product. -/
  | write (product : Int64) (state : PremiumState) : PremiumRowQuery Unit

/-- One change of a row. -/
def updateRow (u : PremiumUpdate) : Work PremiumRowQuery PaymentError PremiumState := do
  let row ← Work.orFail (.productNotFound u.product)
    ((← Work.query (.lock u.product)).filter (u.concerns ·.saler))
  let current ← Work.ofExcept (row.state?.mapError .unknownCode)
  let next ← Work.ofExcept (current.advance u.change)
  if next = current then return current
  else
    Work.query (.write u.product next)
    let product := u.product
    let saler := row.saler
    let source := current.status.label
    let target := next.status.label
    Work.log ⟨.info,
      s!"Product {product} of saler {saler} premium moved from {source} to {target}"⟩
    return next

/-! ## Statements -/

namespace PremiumRow

/-- The promotion columns of a row, in the order of the statement that locks it. -/
def ofRow? : RowReader PremiumRow
  | [saler, status, period, begin, expire] => do
    let saler ← saler.int64?
    let status ← status.int16?
    let period ← period.optional? Value.int16?
    let begin ← begin.optional? Value.instant?
    let expire ← expire.optional? Value.instant?
    return ⟨saler, status, period, begin, expire⟩
  | _ => .error wrongType

end PremiumRow

/-- The columns that a change writes, as parameters. -/
def PremiumState.params (s : PremiumState) : List Param :=
  let time : Option Instant → Param := fun
    | some t => .time t.toMicros
    | none => .null
  let period : Param :=
    match s.period with
    | some period => .integer period.storedCode.toInt
    | none => .null
  [.integer s.status.code.toInt, period, time s.begin, time s.expire]

namespace PremiumRowQuery

/-- The statement that asks a question. -/
def statement : {β : Type} → PremiumRowQuery β → Statement
  | _, lock product =>
    .bound ("SELECT \"product\".\"saler_id\", \"product\".\"premium_status\", "
      ++ "\"product\".\"premium_period\", \"product\".\"premium_begin\", "
      ++ "\"product\".\"premium_expire\" FROM \"product\" WHERE (\"product\".\"id\" = $1) "
      ++ "FOR UPDATE")
      [.integer product.toInt]
  | _, write product state =>
    .bound ("UPDATE \"product\" SET \"premium_status\" = $1, \"premium_period\" = $2, "
      ++ "\"premium_begin\" = $3, \"premium_expire\" = $4 WHERE (\"product\".\"id\" = $5)")
      (state.params ++ [.integer product.toInt])

/-- Reads the reply to the statement; how many rows a write changed does not matter. -/
def readReply : {β : Type} → PremiumRowQuery β → Reply → Except PaymentError β
  | _, lock _, r => (r.first? PremiumRow.ofRow?).mapError .storage
  | _, write _ _, r => r.check.mapError .storage

end PremiumRowQuery

/-- One change on a server, as one transaction. -/
def updateOnServer {σ : Type} (server : Server σ) (u : PremiumUpdate) :
    σ → Outcome σ PaymentError PremiumState :=
  transact server .storage PaymentError.isCrash
    ((updateRow u).run (answerFrom server PremiumRowQuery.statement PremiumRowQuery.readReply))

/-- One call on a server, with the clock at `now`. -/
def performPayment {σ : Type} (server : Server σ) (supply : Nat → String) (now : Instant)
    (call : PaymentCall) (d : PaymentDesk σ) : Outcome (PaymentDesk σ) PaymentError PaymentAnswer :=
  (call.work now).run (PaymentDesk.answer (updateOnServer server) supply) d

end Marketplace
