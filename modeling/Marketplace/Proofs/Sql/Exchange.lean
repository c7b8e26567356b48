import Marketplace.Sql.Server

/-!
# What work asks, whatever is replied

* `Asked`: a question with the reply to it.
* `Policy`: after which exchanges a question may be asked, and which errors may end the work.
* `Work.Obeys`: work keeps to a policy whatever the replies are. The `*_obeys` lemmas put such work
  together.
* `obeys_run`: what a session has exchanged once such work has run on it.
-/

namespace Marketplace

open Sql

/-- A question that was asked, with the reply to its statement. -/
structure Asked (Q : Type → Type) : Type 1 where
  {answer : Type}
  question : Q answer
  reply : Reply

/-- The statement that was sent and the reply. -/
def Asked.exchange {Q : Type → Type} (statement : {β : Type} → Q β → Statement) (a : Asked Q) :
    Statement × Reply :=
  (statement a.question, a.reply)

/-- What work may do that reads its replies with `read`. -/
structure Policy (Q : Type → Type) (ε : Type) where
  read : {β : Type} → Q β → Reply → Except ε β
  mayAsk : List (Asked Q) → {β : Type} → Q β → Prop
  mayFail : ε → Prop

namespace Policy

variable {Q : Type → Type} {ε : Type} {p : Policy Q ε} {asked : List (Asked Q)}

/-- Each of these exchanges, in their order, has a question that may be asked. -/
def Allows (p : Policy Q ε) : List (Asked Q) → List (Asked Q) → Prop
  | _, [] => True
  | asked, a :: more => p.mayAsk asked a.question ∧ p.Allows (asked ++ [a]) more

theorem Allows.mayAsk {before after : List (Asked Q)} {a : Asked Q}
    (h : p.Allows asked (before ++ a :: after)) : p.mayAsk (asked ++ before) a.question := by
  induction before generalizing asked with
  | nil => simpa using h.1
  | cons b before ih => simpa using ih h.2

end Policy

namespace Work

variable {Q : Type → Type} {ε α β : Type} {p : Policy Q ε} {asked : List (Asked Q)}
  {post : List (Asked Q) → α → Prop}

/-- After the exchanges so far, the work asks only what it may, and its errors are ones that may end
it. If it ends with a value, `post` holds of all exchanges. -/
def Obeys (p : Policy Q ε) (post : List (Asked Q) → α → Prop) :
    Work Q ε α → List (Asked Q) → Prop
  | done a, asked => post asked a
  | fail e, _ => p.mayFail e
  | note _ next, asked => next.Obeys p post asked
  | ask q next, asked => p.mayAsk asked q ∧ ∀ reply,
      match p.read q reply with
      | .ok b => (next b).Obeys p post (asked ++ [⟨q, reply⟩])
      | .error e => p.mayFail e

theorem done_obeys {a : α} (h : post asked a) : (done a : Work Q ε α).Obeys p post asked := h

theorem query_obeys {q : Q α} (hq : p.mayAsk asked q)
    (hfail : ∀ reply e, p.read q reply = .error e → p.mayFail e)
    (hpost : ∀ reply a, p.read q reply = .ok a → post (asked ++ [⟨q, reply⟩]) a) :
    (query q : Work Q ε α).Obeys p post asked := by
  refine ⟨hq, fun reply => ?_⟩
  cases h : p.read q reply with
  | ok a => exact hpost reply a h
  | error e => exact hfail reply e h

/-- Work that obeys goes on with work that obeys after what the first has left. -/
theorem bind_obeys {w : Work Q ε β} {f : β → Work Q ε α} {mid : List (Asked Q) → β → Prop}
    (hw : w.Obeys p mid asked) (hf : ∀ asked b, mid asked b → (f b).Obeys p post asked) :
    (w >>= f).Obeys p post asked := by
  induction w generalizing asked with
  | done b => exact hf asked b hw
  | fail e => exact hw
  | note line next ih => exact ih hw
  | ask q next ih =>
    obtain ⟨hq, hnext⟩ := hw
    refine ⟨hq, fun reply => ?_⟩
    have hreply := hnext reply
    cases hr : p.read q reply with
    | error e =>
      rw [hr] at hreply
      exact hreply
    | ok b =>
      rw [hr] at hreply
      exact ih b hreply

theorem map_obeys {w : Work Q ε β} {f : β → α}
    (h : w.Obeys p (fun asked b => post asked (f b)) asked) : (f <$> w).Obeys p post asked :=
  bind_obeys h fun _ _ h => h

theorem discard_obeys {w : Work Q ε β} {post : List (Asked Q) → Prop}
    (h : w.Obeys p (fun asked _ => post asked) asked) :
    (discard w).Obeys p (fun asked _ => post asked) asked :=
  bind_obeys h fun _ _ h => h

theorem require_obeys {c : Prop} [Decidable c] {e : ε} {post : List (Asked Q) → Unit → Prop}
    (he : p.mayFail e) (h : c → post asked ()) :
    (require c e : Work Q ε Unit).Obeys p post asked := by
  unfold require
  split
  · exact h ‹_›
  · exact he

theorem ofExcept_obeys {x : Except ε α} (he : ∀ e, x = .error e → p.mayFail e)
    (h : ∀ a, x = .ok a → post asked a) : (ofExcept x : Work Q ε α).Obeys p post asked := by
  cases x with
  | error e => exact he e rfl
  | ok a => exact h a rfl

theorem log_obeys {line : LogLine} {post : List (Asked Q) → Unit → Prop} (h : post asked ()) :
    (log line : Work Q ε Unit).Obeys p post asked := h

theorem require_bind_obeys {c : Prop} [Decidable c] {e : ε} {f : Unit → Work Q ε α}
    (he : p.mayFail e) (h : c → (f ()).Obeys p post asked) :
    (require c e >>= f).Obeys p post asked := by
  unfold require
  split
  · exact h ‹_›
  · exact he

theorem orFail_bind_obeys {e : ε} {o : Option β} {f : β → Work Q ε α} (he : p.mayFail e)
    (h : ∀ b, o = some b → (f b).Obeys p post asked) :
    (orFail e o >>= f).Obeys p post asked := by
  cases o with
  | none => exact he
  | some b => exact h b rfl

end Work

/-! ## Sessions -/

section

variable {Q : Type → Type} {ε α : Type} {p : Policy Q ε} {post : List (Asked Q) → α → Prop}

/-- Work that keeps to a policy does so on every session. -/
theorem obeys_run (statement : {β : Type} → Q β → Statement) {w : Work Q ε α}
    {asked : List (Asked Q)} (hw : w.Obeys p post asked) (s : Session) :
    let o := w.run (answerFrom Session.server statement p.read) s
    ∃ more : List (Asked Q), o.state.exchanges = s.exchanges ++ more.map (·.exchange statement) ∧
      p.Allows asked more ∧ (∀ a, o.result = .ok a → post (asked ++ more) a) ∧
      ∀ e, o.result = .error e → p.mayFail e := by
  induction w generalizing asked s with
  | done a =>
    refine ⟨[], by simp [Work.run, Outcome.ok], trivial, ?_, ?_⟩
    · rintro _ ⟨⟩
      rw [List.append_nil]
      exact hw
    · rintro _ ⟨⟩
  | fail e =>
    refine ⟨[], by simp [Work.run, Outcome.error], trivial, ?_, ?_⟩
    · rintro _ ⟨⟩
    · rintro _ ⟨⟩
      exact hw
  | note line next ih => exact ih hw s
  | ask q next ih =>
    obtain ⟨hq, hnext⟩ := hw
    have hreply := hnext (s.reply (statement q))
    have hanswer : answerFrom Session.server statement p.read q s
        = ⟨p.read q (s.reply (statement q)), (s.send (statement q)).2, []⟩ := rfl
    simp only [Work.run, Outcome.andThen, hanswer]
    cases hr : p.read q (s.reply (statement q)) with
    | error e =>
      rw [hr] at hreply
      refine ⟨[⟨q, s.reply (statement q)⟩], rfl, ⟨hq, trivial⟩, ?_, ?_⟩
      · rintro _ ⟨⟩
      · rintro _ ⟨⟩
        exact hreply
    | ok b =>
      rw [hr] at hreply
      obtain ⟨more, hmore, hallows, hok, herror⟩ := ih b hreply (s.send (statement q)).2
      refine ⟨⟨q, s.reply (statement q)⟩ :: more, ?_, ⟨hq, hallows⟩, ?_, herror⟩
      · simpa [Session.send, Asked.exchange] using hmore
      · intro a ha
        simpa using hok a ha

end

end Marketplace
