import Marketplace.Log

/-!
# Units of work

A unit of work asks a store questions, one at a time, and ends with a value or an error. The store
is not part of it: `Work.run` answers the questions from any store.

* `Work Q ε α`: work with the questions `Q`, where `Q β` is a question whose answer is a `β`.
* `Work.run`: the result, the store afterwards and the log lines, for a way to answer.
* `run_bind`: a sequence of two pieces of work runs one after the other on the same store.
-/

namespace Marketplace

/-- A program of questions to a store. -/
inductive Work (Q : Type → Type) (ε α : Type) : Type 1 where
  /-- The work is done. -/
  | done (value : α)
  /-- The work is given up. -/
  | fail (error : ε)
  /-- Writes a line to the log. -/
  | note (line : LogLine) (next : Work Q ε α)
  /-- Asks the store; an error of the store ends the work. -/
  | ask {β : Type} (question : Q β) (next : β → Work Q ε α)

/-- What a run left: a result, a store and log lines. -/
structure Outcome.{u} (σ : Type u) (ε α : Type) where
  result : Except ε α
  state : σ
  log : List LogLine

namespace Outcome

variable {ε α β : Type}

/-- A success that logs nothing. -/
def ok.{u} {σ : Type u} (a : α) (s : σ) : Outcome σ ε α := ⟨.ok a, s, []⟩

/-- A failure that logs nothing. -/
def error.{u} {σ : Type u} (e : ε) (s : σ) : Outcome σ ε α := ⟨.error e, s, []⟩

/-- Goes on after a success, with the log lines of both parts. -/
def andThen.{u} {σ : Type u} (o : Outcome σ ε α) (next : α → σ → Outcome σ ε β) : Outcome σ ε β :=
  match o.result with
  | .ok a =>
    let rest := next a o.state
    { rest with log := o.log ++ rest.log }
  | .error e => ⟨.error e, o.state, o.log⟩

/-- The outcome with another error in the place of its own. -/
def mapError.{u} {ε' : Type} {σ : Type u} (f : ε → ε') (o : Outcome σ ε α) : Outcome σ ε' α :=
  ⟨o.result.mapError f, o.state, o.log⟩

@[simp] theorem ok_andThen.{u} {σ : Type u} (a : α) (s : σ) (next : α → σ → Outcome σ ε β) :
    (ok a s : Outcome σ ε α).andThen next = next a s := by
  simp [andThen, ok]

@[simp] theorem error_andThen.{u} {σ : Type u} (e : ε) (s : σ) (next : α → σ → Outcome σ ε β) :
    (error e s : Outcome σ ε α).andThen next = error e s := rfl

end Outcome

namespace Work

variable {Q : Type → Type} {ε α β : Type}

/-- The first work, then the work that its value calls for. -/
def bind : Work Q ε α → (α → Work Q ε β) → Work Q ε β
  | done a, f => f a
  | fail e, _ => fail e
  | note line next, f => note line (next.bind f)
  | ask question next, f => ask question fun b => (next b).bind f

instance : Monad (Work Q ε) where
  pure := done
  bind := bind

/-- Asks one question. -/
def query (question : Q α) : Work Q ε α := ask question done

/-- Goes on if `p` holds, and gives up otherwise. -/
def require (p : Prop) [Decidable p] (e : ε) : Work Q ε Unit := if p then done () else fail e

/-- The value that is there; gives up when there is none. -/
def orFail (e : ε) : Option α → Work Q ε α
  | some a => done a
  | none => fail e

/-- The value of a computation that may have failed. -/
def ofExcept : Except ε α → Work Q ε α
  | .ok a => done a
  | .error e => fail e

/-- Writes one line to the log. -/
def log (line : LogLine) : Work Q ε Unit := note line (done ())

/-- Runs work on a store that answers questions. -/
def run.{u} {σ : Type u} (answer : {β : Type} → Q β → σ → Outcome σ ε β) :
    Work Q ε α → σ → Outcome σ ε α
  | done a, s => .ok a s
  | fail e, s => .error e s
  | note line next, s =>
    let rest := run answer next s
    { rest with log := line :: rest.log }
  | ask question next, s => (answer question s).andThen fun b => run answer (next b)

@[simp] theorem pure_eq (a : α) : (pure a : Work Q ε α) = done a := rfl

@[simp] theorem done_bind (a : α) (f : α → Work Q ε β) : done a >>= f = f a := rfl

@[simp] theorem fail_bind (e : ε) (f : α → Work Q ε β) : (fail e : Work Q ε α) >>= f = fail e := rfl

@[simp] theorem note_bind (line : LogLine) (w : Work Q ε α) (f : α → Work Q ε β) :
    note line w >>= f = note line (w >>= f) := rfl

@[simp] theorem ask_bind {γ : Type} (q : Q γ) (w : γ → Work Q ε α) (f : α → Work Q ε β) :
    ask q w >>= f = ask q fun c => w c >>= f := rfl

theorem run_bind.{u} {σ : Type u} (answer : {β : Type} → Q β → σ → Outcome σ ε β)
    (w : Work Q ε α) (f : α → Work Q ε β) (s : σ) :
    run answer (w >>= f) s = (run answer w s).andThen fun a => run answer (f a) := by
  induction w generalizing s with
  | done a => simp [run]
  | fail e => simp [run]
  | note line next ih =>
    simp only [note_bind, run, ih, Outcome.andThen]
    cases (run answer next s).result <;> simp
  | ask q next ih =>
    simp only [ask_bind, run, Outcome.andThen]
    cases (answer q s).result with
    | error e => simp
    | ok b =>
      simp only [ih, Outcome.andThen]
      cases (run answer (next b) (answer q s).state).result <;> simp

end Work

end Marketplace
