import Marketplace.Proofs.Sql.Exchange
import Marketplace.Proofs.Sql.Transaction

/-!
# Faults of the server

A server fails some work by refusing a statement, or by a reply that cannot be read. The work then
ends with an error of the storage, wherever it meets the fault.

* `ServerFault`: an exchange of one of the two kinds. `MeetsFault`: there is one between a session
  and a later one.
* `ReadsReplies`: what is asked of the questions of a service, so that a fault is an error of the
  storage whichever question it meets.
* `run_of_unreadable`: work ends with the first reply that it cannot read.
* `transact_failsWith`: a transaction that meets a fault fails, also if the fault is in a statement
  of transaction control.
-/

namespace Marketplace

open Sql

/-- The outcome is an error of which `S` holds. -/
def Outcome.FailsWith.{u} {σ : Type u} {ε α : Type} (o : Outcome σ ε α) (S : ε → Prop) : Prop :=
  ∃ e, o.result = .error e ∧ S e

/-- A statement with parameters is none of transaction control. -/
theorem Sql.Session.isControl_bound (sql : String) (params : List Param) :
    isControl (.bound sql params) = false := by
  simp [isControl, begin, commit, rollback, Statement.plain, Statement.bound]

section

variable {Q : Type → Type} {ε α : Type}

/-- An exchange that fails work which puts its questions with `statement` and reads the replies with
`read`. -/
inductive ServerFault (statement : {β : Type} → Q β → Statement)
    (read : {β : Type} → Q β → Reply → Except ε β) : Statement × Reply → Prop where
  /-- The server refuses the statement. -/
  | refused (sent : Statement) (message : String) :
    ServerFault statement read (sent, .refused message)
  /-- The reply is not one to the question. -/
  | unreadable {β : Type} {q : Q β} {r : Reply} {e : ε} (h : read q r = .error e) :
    ServerFault statement read (statement q, r)

/-- From `s` to `s'`, the session has met a fault. -/
def MeetsFault (statement : {β : Type} → Q β → Statement)
    (read : {β : Type} → Q β → Reply → Except ε β) (s s' : Session) : Prop :=
  ∃ more, s'.exchanges = s.exchanges ++ more ∧ ∃ x ∈ more, ServerFault statement read x

/-- Replies that cannot be read are errors of which `S` holds. -/
structure ReadsReplies (statement : {β : Type} → Q β → Statement)
    (read : {β : Type} → Q β → Reply → Except ε β) (S : ε → Prop) : Prop where
  isControl_statement {β : Type} (q : Q β) : Session.isControl (statement q) = false
  refused {β : Type} (q : Q β) (message : String) : ∃ e, read q (.refused message) = .error e
  error {β : Type} {q : Q β} {r : Reply} {e : ε} : read q r = .error e → S e
  /-- Questions with one statement are alike in what can be read. -/
  alike {β γ : Type} {q : Q β} {q' : Q γ} {r : Reply} {e : ε} :
    statement q = statement q' → read q r = .error e → ∃ e', read q' r = .error e'

variable {statement : {β : Type} → Q β → Statement} {read : {β : Type} → Q β → Reply → Except ε β}
  {S : ε → Prop}

/-! ## Work -/

/-- Work ends with the first reply that it cannot read. -/
theorem run_of_unreadable (statement : {β : Type} → Q β → Statement)
    (read : {β : Type} → Q β → Reply → Except ε β) (w : Work Q ε α) (s : Session) :
    let o := w.run (answerFrom Session.server statement read) s
    ∃ asked : List (Asked Q), o.state.exchanges = s.exchanges ++ asked.map (·.exchange statement) ∧
      ∀ a ∈ asked, ∀ e, read a.question a.reply = .error e → o.result = .error e := by
  induction w generalizing s with
  | done a => exact ⟨[], by simp [Work.run, Outcome.ok], by simp⟩
  | fail e => exact ⟨[], by simp [Work.run, Outcome.error], by simp⟩
  | note line next ih => exact ih s
  | ask q next ih =>
    have hanswer : answerFrom Session.server statement read q s
        = ⟨read q (s.reply (statement q)), (s.send (statement q)).2, []⟩ := rfl
    simp only [Work.run, Outcome.andThen, hanswer]
    cases hr : read q (s.reply (statement q)) with
    | error e =>
      refine ⟨[⟨q, s.reply (statement q)⟩], rfl, ?_⟩
      intro a ha e' he'
      obtain rfl := List.mem_singleton.mp ha
      cases hr.symm.trans he'
      rfl
    | ok b =>
      obtain ⟨more, hmore, herror⟩ := ih b (s.send (statement q)).2
      refine ⟨⟨q, s.reply (statement q)⟩ :: more, ?_, ?_⟩
      · simpa [Session.send, Asked.exchange] using hmore
      · intro a ha e he
        rcases List.mem_cons.mp ha with rfl | ha
        · cases hr.symm.trans he
        · exact herror a ha e he

/-! ## Where a fault is met -/

variable {s s' s'' : Session}

/-- A fault on the way is one in its first part or in its second. -/
theorem MeetsFault.split {front back : List (Statement × Reply)}
    (h : MeetsFault statement read s s'') (hfront : s'.exchanges = s.exchanges ++ front)
    (hback : s''.exchanges = s'.exchanges ++ back) :
    MeetsFault statement read s s' ∨ MeetsFault statement read s' s'' := by
  obtain ⟨more, hmore, x, hx, hf⟩ := h
  rw [hback, hfront, List.append_assoc, List.append_cancel_left_eq] at hmore
  subst hmore
  rcases List.mem_append.mp hx with hx | hx
  · exact .inl ⟨front, hfront, x, hx, hf⟩
  · exact .inr ⟨back, hback, x, hx, hf⟩

namespace ReadsReplies

variable (h : ReadsReplies statement read S)

include h

theorem unreadable_of_fault {a : Asked Q} (hf : ServerFault statement read (a.exchange statement)) :
    ∃ e, read a.question a.reply = .error e := by
  generalize hx : a.exchange statement = x at hf
  cases hf with
  | refused sent message =>
    obtain ⟨-, hr⟩ := Prod.mk.inj hx
    rw [hr]
    exact h.refused a.question message
  | unreadable he =>
    obtain ⟨hq, hr⟩ := Prod.mk.inj hx
    rw [hr]
    exact h.alike hq.symm he

/-- Work that meets a fault fails with what it reads. -/
theorem run_failsWith {w : Work Q ε α}
    (hm : MeetsFault statement read s (w.run (answerFrom Session.server statement read) s).state) :
    (w.run (answerFrom Session.server statement read) s).FailsWith S := by
  obtain ⟨asked, hasked, herror⟩ := run_of_unreadable statement read w s
  obtain ⟨more, hmore, x, hx, hf⟩ := hm
  rw [hasked, List.append_cancel_left_eq] at hmore
  subst hmore
  obtain ⟨a, ha, rfl⟩ := List.mem_map.mp hx
  obtain ⟨e, he⟩ := h.unreadable_of_fault hf
  exact ⟨e, herror a ha e he, h.error he⟩

/-- A statement of transaction control asks no question, so it can only be refused. -/
theorem check_of_meetsFault {sent : Statement} (hc : Session.isControl sent)
    (hm : MeetsFault statement read s (s.send sent).2) :
    ∃ f, (s.reply sent).check = .error f := by
  obtain ⟨more, hmore, x, hx, hf⟩ := hm
  obtain rfl : [(sent, s.reply sent)] = more := List.append_cancel_left hmore
  obtain rfl := List.mem_singleton.mp hx
  generalize hr : s.reply sent = r at hf ⊢
  cases hf with
  | refused sent message => exact ⟨_, rfl⟩
  | @unreadable _ q =>
    rw [h.isControl_statement q] at hc
    cases hc

end ReadsReplies

/-! ## Transactions -/

variable {fault : StorageFault → ε} {isCrash : ε → Bool} {o : Outcome Session ε α}
  {sent : Statement}

/-- Work that has failed stays so, whatever becomes of the statement that ends its transaction. -/
theorem control_failsWith (sent : Statement) (hfault : ∀ f, S (fault f)) (ho : o.FailsWith S) :
    (control Session.server sent fault o).FailsWith S := by
  obtain ⟨e, he, hS⟩ := ho
  unfold Outcome.FailsWith
  rw [control_result]
  cases (Session.server.send sent o.state).1.check with
  | ok => exact ⟨e, he, hS⟩
  | error f => exact ⟨fault f, rfl, hfault f⟩

theorem control_failsWith_of_check {f : StorageFault} (hfault : ∀ f, S (fault f))
    (hf : (o.state.reply sent).check = .error f) :
    (control Session.server sent fault o).FailsWith S := by
  have hsend : (Session.server.send sent o.state).1.check = .error f := hf
  refine ⟨fault f, ?_, hfault f⟩
  rw [control_result, hsend]

/-- A transaction that begins fails if its work, or the statement that ends it, meets a fault. -/
theorem transact_failsWith_of_begun (h : ReadsReplies statement read S)
    (hfault : ∀ f, S (fault f)) {w : Work Q ε α} (hup : s.isUp)
    (hb : (s.reply begin).check = .ok ())
    (hm : MeetsFault statement read s (transact Session.server fault isCrash
      (w.run (answerFrom Session.server statement read)) s).state) :
    (transact Session.server fault isCrash (w.run (answerFrom Session.server statement read))
      s).FailsWith S := by
  obtain ⟨asked, hasked, -⟩ := run_of_unreadable statement read w (s.send begin).2
  have hrun := h.run_failsWith (w := w) (s := (s.send begin).2)
  generalize hran : w.run (answerFrom Session.server statement read) (s.send begin).2 = o
    at hasked hrun
  have hwork (hm : MeetsFault statement read s o.state) : o.FailsWith S := by
    rcases hm.split rfl hasked with hm | hm
    · obtain ⟨f, hf⟩ := h.check_of_meetsFault rfl hm
      cases hb.symm.trans hf
    · exact hrun hm
  have hcases : transact Session.server fault isCrash
      (w.run (answerFrom Session.server statement read)) s = o ∨ _ :=
    transact_of_begun_cases hup hb hran
  rcases hcases with ht | ⟨sent, hc, ht⟩
  · rw [ht] at hm ⊢
    exact hwork hm
  · have hfront : o.state.exchanges
        = s.exchanges ++ (begin, s.reply begin) :: asked.map (·.exchange statement) := by
      rw [hasked]
      simp [Session.send]
    rw [ht] at hm ⊢
    rw [control_state] at hm
    rcases hm.split hfront rfl with hm | hm
    · exact control_failsWith sent hfault (hwork hm)
    · obtain ⟨f, hf⟩ := h.check_of_meetsFault hc hm
      exact control_failsWith_of_check hfault hf

/-- **A fault anywhere fails the transaction.** The error is one of the storage, whether there was
no connection, or the server refused to begin, or a question could not be answered, or the
transaction could not be ended. -/
theorem transact_failsWith (h : ReadsReplies statement read S) (hfault : ∀ f, S (fault f))
    {w : Work Q ε α} (hm : s.isUp = false ∨ MeetsFault statement read s (transact Session.server
      fault isCrash (w.run (answerFrom Session.server statement read)) s).state) :
    (transact Session.server fault isCrash (w.run (answerFrom Session.server statement read))
      s).FailsWith S := by
  cases hup : s.isUp with
  | false =>
    rw [transact_of_down hup]
    exact ⟨_, rfl, hfault _⟩
  | true =>
    cases hb : (s.reply begin).check with
    | error f =>
      rw [transact_of_refused hup hb]
      exact ⟨_, rfl, hfault f⟩
    | ok =>
      rcases hm with hdown | hm
      · cases hup.symm.trans hdown
      · exact transact_failsWith_of_begun h hfault hup hb hm

end

end Marketplace
