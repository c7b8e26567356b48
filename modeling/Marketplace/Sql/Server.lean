import Marketplace.Sql.Statement
import Marketplace.Work

/-!
# Servers and transactions

* `Server σ`: a database server with state `σ`. It may be out of reach; otherwise it replies to
  each statement.
* `answerFrom` answers the questions of some work by one statement each.
* `transact` runs work between `BEGIN` and `COMMIT`, or `ROLLBACK` if the work fails. After a crash
  nothing more is sent: the connection is given up, and the server undoes the work.
* `Session`: a server that gives prepared replies and keeps what it was sent.
-/

namespace Marketplace.Sql

/-- A database server. -/
structure Server (σ : Type) where
  isUp : σ → Bool
  send : Statement → σ → Reply × σ

def begin : Statement := .plain "BEGIN"

def commit : Statement := .plain "COMMIT"

def rollback : Statement := .plain "ROLLBACK"

variable {σ ε α : Type}

/-- Answers a question by a statement and by reading the reply to it. -/
def answerFrom {Q : Type → Type} (server : Server σ) (statement : {β : Type} → Q β → Statement)
    (read : {β : Type} → Q β → Reply → Except ε β) {β : Type} (question : Q β) (s : σ) :
    Outcome σ ε β :=
  let (reply, s) := server.send (statement question) s
  ⟨read question reply, s, []⟩

/-- Sends a statement of transaction control; a refusal is the result, whatever it was before. -/
def control (server : Server σ) (statement : Statement) (fault : StorageFault → ε)
    (o : Outcome σ ε α) : Outcome σ ε α :=
  match server.send statement o.state with
  | (.refused message, s) => ⟨.error (fault (.database message)), s, o.log⟩
  | (_, s) => { o with state := s }

/-- Runs work as one transaction. `fault` makes an error of a fault of the storage. -/
def transact (server : Server σ) (fault : StorageFault → ε) (isCrash : ε → Bool)
    (work : σ → Outcome σ ε α) (s : σ) : Outcome σ ε α :=
  if ¬ server.isUp s then .error (fault .timedOut) s
  else
    match server.send begin s with
    | (.refused message, s) => .error (fault (.database message)) s
    | (_, s) =>
      let o := work s
      match o.result with
      | .ok _ => control server commit fault o
      | .error e => if isCrash e then o else control server rollback fault o

/-! ## Prepared replies -/

/-- A server that replies to the statements, other than those of transaction control, with the
prepared replies in their order, and with nothing once they are used up. -/
structure Session where
  isUp : Bool
  /-- The messages with which statements of transaction control are refused. -/
  refusals : List (String × String)
  replies : List Reply
  /-- The statements sent so far with the replies to them, in order. -/
  exchanges : List (Statement × Reply)

namespace Session

/-- What was sent, in order. -/
def sent (s : Session) : List Statement := s.exchanges.map (·.1)

/-- Whether a statement is one of transaction control. -/
def isControl (statement : Statement) : Bool :=
  statement = begin || statement = commit || statement = rollback

/-- The reply to the next statement. -/
def reply (statement : Statement) (s : Session) : Reply :=
  if isControl statement then
    match s.refusals.lookup statement.sql with
    | some message => .refused message
    | none => .nothing
  else s.replies.head?.getD .nothing

/-- Replies to one statement and keeps both. -/
def send (statement : Statement) (s : Session) : Reply × Session :=
  let reply := s.reply statement
  (reply, { s with
    replies := if isControl statement then s.replies else s.replies.drop 1,
    exchanges := s.exchanges ++ [(statement, reply)] })

/-- The server of prepared replies. -/
def server : Server Session := ⟨Session.isUp, send⟩

end Session

end Marketplace.Sql
