import Marketplace.Work

/-!
# Transcripts

A `Transcript` is a store that writes down what it is asked. Chosen questions do not reach it: a
`Fault` names one by its method and its number, and what comes back in its place.

* `Transcript.answer` answers from the store below and writes the question down.
* `Transcript.transact` runs work as one transaction, which may also fail to begin or to commit.
-/

namespace Marketplace

/-- Questions that have names. -/
class NamedQuery (Q : Type → Type) where
  method : {β : Type} → Q β → String
  /-- The answer of a store that holds nothing, to a question that has one. -/
  nothing? : {β : Type} → Q β → Option β

/-- What comes back in place of an answer. -/
inductive Mishap (ε : Type) where
  /-- The answer of a store that holds nothing. -/
  | nothing
  | error (e : ε)

/-- The `nth` use of a method goes wrong. -/
structure Fault (ε : Type) where
  method : String
  nth : Nat
  mishap : Mishap ε

/-- One line of a transcript. -/
inductive TranscriptLine (Q : Type → Type) : Type 1 where
  | begin
  /-- A question and its answer; `none` is an error. -/
  | asked {β : Type} (question : Q β) (answer : Option β)
  | commit
  | rollback

/-- The method that a line used. -/
def TranscriptLine.method {Q : Type → Type} [NamedQuery Q] : TranscriptLine Q → String
  | begin => "begin"
  | asked question _ => NamedQuery.method question
  | commit => "commit"
  | rollback => "rollback"

/-- A store and what it was asked. -/
structure Transcript (Q : Type → Type) (σ : Type) : Type 1 where
  store : σ
  lines : List (TranscriptLine Q)

namespace Transcript

variable {Q : Type → Type} [NamedQuery Q] {σ ε α : Type}

/-- The transcript with one more line. -/
def push (t : Transcript Q σ) (line : TranscriptLine Q) : Transcript Q σ :=
  { t with lines := t.lines ++ [line] }

/-- What goes wrong at the next use of a method. -/
def mishap? (faults : List (Fault ε)) (t : Transcript Q σ) (method : String) : Option (Mishap ε) :=
  let nth := (t.lines.filter (·.method = method)).length + 1
  (faults.find? fun f => f.method = method ∧ f.nth = nth).map (·.mishap)

/-- The error of a step that only fails or succeeds. -/
def error? (faults : List (Fault ε)) (t : Transcript Q σ) (method : String) : Option ε :=
  match t.mishap? faults method with
  | some (.error e) => some e
  | _ => none

/-- Answers one question from the store below and writes it down. -/
def answer (faults : List (Fault ε)) (below : {β : Type} → Q β → σ → Outcome σ ε β) {β : Type}
    (question : Q β) (t : Transcript Q σ) : Outcome (Transcript Q σ) ε β :=
  match t.mishap? faults (NamedQuery.method question), NamedQuery.nothing? question with
  | some (.error e), _ => .error e (t.push (.asked question none))
  | some .nothing, some b => .ok b (t.push (.asked question (some b)))
  | _, _ =>
    let o := below question t.store
    ⟨o.result, { t with store := o.state }.push (.asked question o.result.toOption), o.log⟩

/-- Runs work as one transaction. -/
def transact (faults : List (Fault ε)) (below : {β : Type} → Q β → σ → Outcome σ ε β)
    (work : Work Q ε α) (t : Transcript Q σ) : Outcome (Transcript Q σ) ε α :=
  match t.error? faults "begin" with
  | some e => .error e t
  | none =>
    let o := work.run (answer faults below) (t.push .begin)
    let result : Except ε α :=
      match o.result, o.state.error? faults "commit" with
      | .ok _, some e => .error e
      | result, _ => result
    match result with
    | .ok a => ⟨.ok a, o.state.push .commit, o.log⟩
    | .error e => ⟨.error e, { o.state with store := t.store }.push .rollback, o.log⟩

end Transcript

end Marketplace
