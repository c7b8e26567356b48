import Marketplace.Proofs.Sql.Transaction
import Marketplace.Proofs.Work

/-!
# Prepared replies, one after the other

A session replies to the questions of some work with its prepared replies in their order. Statements
of transaction control use none of them up.

* `Session.after`: a session once it was sent some statements. `reply_after` tells which prepared
  reply comes next.
* `query_returns_after`: a question is one more statement.
* `transact_returns_after`, `transact_fails_after`: the transaction of some work sends what the work
  asks, and one more statement that commits it or takes it back.
-/

namespace Marketplace.Sql.Session

/-- The session after it was sent some statements. -/
def after (s : Session) (statements : List Statement) : Session :=
  statements.foldl (fun s statement => (s.send statement).2) s

/-- The reply to the next question but `n`. -/
def replyAt (s : Session) (n : Nat) : Reply := s.replies[n]?.getD .nothing

/-- How many of some statements use up a prepared reply. -/
def questions (statements : List Statement) : Nat := statements.countP (!isControl ·)

variable {s : Session} {statement : Statement} {statements : List Statement}

theorem after_append (s : Session) (statements more : List Statement) :
    s.after (statements ++ more) = (s.after statements).after more :=
  List.foldl_append

theorem sent_after (s : Session) (statements : List Statement) :
    (s.after statements).sent = s.sent ++ statements := by
  induction statements generalizing s with
  | nil => simp [after]
  | cons statement statements ih =>
    have hsent : (s.send statement).2.sent = s.sent ++ [statement] := by simp [sent, send]
    change ((s.send statement).2.after statements).sent = _
    rw [ih, hsent, List.append_assoc, List.singleton_append]

theorem refusals_after (s : Session) (statements : List Statement) :
    (s.after statements).refusals = s.refusals := by
  induction statements generalizing s with
  | nil => rfl
  | cons statement statements ih => exact ih (s.send statement).2

theorem replies_after (s : Session) (statements : List Statement) :
    (s.after statements).replies = s.replies.drop (questions statements) := by
  induction statements generalizing s with
  | nil => rfl
  | cons statement statements ih =>
    change ((s.send statement).2.after statements).replies = _
    rw [ih]
    by_cases h : isControl statement <;> simp [send, questions, h, Nat.add_comm]

/-- Questions get the prepared replies in their order. -/
theorem reply_after (s : Session) (statements : List Statement) (h : isControl statement = false) :
    (s.after statements).reply statement = s.replyAt (questions statements) := by
  simp [reply, h, replies_after, replyAt]

/-- A statement of transaction control gets the same reply at any time. -/
theorem reply_after_of_isControl (s : Session) (statements : List Statement)
    (h : isControl statement) : (s.after statements).reply statement = s.reply statement := by
  simp [reply, h, refusals_after]

theorem check_after
    (haccepts : ∀ statement, isControl statement → (s.reply statement).check = .ok ())
    (statements : List Statement) (h : isControl statement) :
    (server.send statement (s.after statements)).1.check = .ok () :=
  (congrArg Reply.check (reply_after_of_isControl s statements h)).trans (haccepts statement h)

theorem sent_send_after (s : Session) (statements : List Statement) (statement : Statement) :
    ((s.after statements).send statement).2.sent = s.sent ++ statements ++ [statement] := by
  change ((s.after statements).after [statement]).sent = _
  rw [sent_after, sent_after]

/-! ## Work on a session -/

section

variable {Q : Type → Type} {ε α β : Type} {ask : {β : Type} → Q β → Statement}
  {read : {β : Type} → Q β → Reply → Except ε β} {w : Work Q ε α} {e : ε} {a : α} {b : β}

/-- A question is one more statement, and its answer is what the next prepared reply says. -/
theorem query_returns_after {q : Q β} (h : isControl (ask q) = false)
    (hread : read q (s.replyAt (questions statements)) = .ok b) :
    (Work.query q : Work Q ε β).Returns (answerFrom server ask read) (s.after statements) b
      (s.after (statements ++ [ask q])) := by
  rw [Work.query_returns, after_append]
  refine ⟨?_, rfl⟩
  rw [← hread, ← reply_after s statements h]
  rfl

variable {fault : StorageFault → ε} {isCrash : ε → Bool}

/-- Work that succeeds is committed. -/
theorem transact_returns_after (hup : s.isUp)
    (haccepts : ∀ statement, isControl statement → (s.reply statement).check = .ok ())
    (h : w.Returns (answerFrom server ask read) (s.after [begin]) a
      (s.after (begin :: statements))) :
    let o := transact server fault isCrash (w.run (answerFrom server ask read)) s
    o.result = .ok a ∧ o.state.sent = s.sent ++ begin :: statements ++ [commit] := by
  intro o
  obtain ⟨hresult, hstate⟩ : o.result = .ok a ∧ o.state = _ :=
    transact_of_ok hup (haccepts begin rfl) h.1 h.2 (check_after haccepts _ rfl)
  refine ⟨hresult, ?_⟩
  rw [hstate]
  exact sent_send_after s _ commit

/-- Work that fails, and does not crash, is taken back. -/
theorem transact_fails_after (hup : s.isUp)
    (haccepts : ∀ statement, isControl statement → (s.reply statement).check = .ok ())
    (h : w.Fails (answerFrom server ask read) (s.after [begin]) e
      (s.after (begin :: statements))) (hcrash : isCrash e = false) :
    let o := transact server fault isCrash (w.run (answerFrom server ask read)) s
    o.result = .error e ∧ o.state.sent = s.sent ++ begin :: statements ++ [rollback] := by
  intro o
  obtain ⟨hresult, hstate⟩ : o.result = .error e ∧ o.state = _ :=
    transact_of_error hup (haccepts begin rfl) h.1 h.2 hcrash (check_after haccepts _ rfl)
  refine ⟨hresult, ?_⟩
  rw [hstate]
  exact sent_send_after s _ rollback

end

end Marketplace.Sql.Session
