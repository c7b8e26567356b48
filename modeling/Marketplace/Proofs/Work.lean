import Marketplace.Work

/-!
# What a run went through, and two runs side by side

* `Work.Returns answer w s a s'`: the run of `w` on the store `s` ends with the value `a` and leaves
  the store `s'`. The log is left out. The `*_returns` lemmas take a successful run apart, one for
  each way to build work.
* `Work.Fails answer w s e s'`: the run ends with the error `e` and leaves `s'`. The `*_fails` lemmas
  find the part that failed.
* `Work.Along answer P w s`: `P` holds of every question that the run asks, with the store that it
  reaches, also in a run that fails. The `*_along` lemmas are iffs, one for each way to build work.
* `Work.Agrees answer w post s s'`: the runs of `w` on two stores have the same result, and after a
  value the two stores are related by `post`. The `*_agrees` lemmas put such runs together.

A proof about work opens its definition and uses the lemmas of one kind.
-/

namespace Marketplace

namespace Work

variable {Q : Type → Type} {ε α β : Type}

/-- The run ends with `a` and leaves the store `s'`. -/
def Returns.{u} {σ : Type u} (answer : {β : Type} → Q β → σ → Outcome σ ε β) (w : Work Q ε α)
    (s : σ) (a : α) (s' : σ) : Prop :=
  (w.run answer s).result = .ok a ∧ (w.run answer s).state = s'

section

universe u

variable {σ : Type u} {answer : {β : Type} → Q β → σ → Outcome σ ε β} {s s' : σ}

@[simp] theorem done_returns {a b : α} :
    (done a : Work Q ε α).Returns answer s b s' ↔ a = b ∧ s = s' := by
  simp [Returns, run, Outcome.ok]

@[simp] theorem not_fail_returns {e : ε} {a : α} : ¬ (fail e : Work Q ε α).Returns answer s a s' := by
  simp [Returns, run, Outcome.error]

theorem run_query_result (q : Q α) (s : σ) :
    ((query q : Work Q ε α).run answer s).result = (answer q s).result := by
  simp only [query, run, Outcome.andThen]
  cases (answer q s).result <;> rfl

theorem run_query_state (q : Q α) (s : σ) :
    ((query q : Work Q ε α).run answer s).state = (answer q s).state := by
  simp only [query, run, Outcome.andThen]
  cases (answer q s).result <;> rfl

theorem query_returns {q : Q α} {a : α} :
    (query q : Work Q ε α).Returns answer s a s' ↔
      (answer q s).result = .ok a ∧ (answer q s).state = s' := by
  rw [Returns, run_query_result, run_query_state]

/-- A sequence succeeds if its parts do, the second on what the first left. -/
theorem bind_returns {w : Work Q ε α} {f : α → Work Q ε β} {b : β} {s'' : σ} :
    (w >>= f).Returns answer s b s'' ↔
      ∃ a s', w.Returns answer s a s' ∧ (f a).Returns answer s' b s'' := by
  unfold Returns
  rw [run_bind, Outcome.andThen]
  cases h : (w.run answer s).result with
  | error e => simp
  | ok a =>
    constructor
    · intro hf
      exact ⟨a, _, ⟨rfl, rfl⟩, hf⟩
    · rintro ⟨a', _, ⟨ha, rfl⟩, hf⟩
      cases ha
      exact hf

theorem map_returns {w : Work Q ε α} {f : α → β} {b : β} :
    (f <$> w).Returns answer s b s' ↔ ∃ a, w.Returns answer s a s' ∧ f a = b := by
  have h : (f <$> w) = w >>= fun a => done (f a) := rfl
  rw [h, bind_returns]
  constructor
  · rintro ⟨a, s₁, hw, hf⟩
    obtain ⟨rfl, rfl⟩ := done_returns.mp hf
    exact ⟨a, hw, rfl⟩
  · rintro ⟨a, hw, rfl⟩
    exact ⟨a, s', hw, done_returns.mpr ⟨rfl, rfl⟩⟩

@[simp] theorem discard_returns {w : Work Q ε α} {u : Unit} :
    (discard w).Returns answer s u s' ↔ ∃ a, w.Returns answer s a s' := by
  have h : discard w = (fun _ => ()) <$> w := rfl
  rw [h, map_returns]
  simp

@[simp] theorem require_returns {p : Prop} [Decidable p] {e : ε} {u : Unit} :
    (require p e : Work Q ε Unit).Returns answer s u s' ↔ p ∧ s = s' := by
  unfold require
  split <;> simp_all

@[simp] theorem orFail_returns {e : ε} {o : Option α} {a : α} :
    (orFail e o : Work Q ε α).Returns answer s a s' ↔ o = some a ∧ s = s' := by
  cases o <;> simp [orFail]

@[simp] theorem ofExcept_returns {r : Except ε α} {a : α} :
    (ofExcept r : Work Q ε α).Returns answer s a s' ↔ r = .ok a ∧ s = s' := by
  cases r <;> simp [ofExcept]

@[simp] theorem log_returns {line : LogLine} {u : Unit} :
    (log line : Work Q ε Unit).Returns answer s u s' ↔ s = s' := by
  simp [log, Returns, run, Outcome.ok]

end

/-! ## Runs that fail -/

/-- The run ends with the error `e` and leaves the store `s'`. -/
def Fails.{u} {σ : Type u} (answer : {β : Type} → Q β → σ → Outcome σ ε β) (w : Work Q ε α)
    (s : σ) (e : ε) (s' : σ) : Prop :=
  (w.run answer s).result = .error e ∧ (w.run answer s).state = s'

section

universe u

variable {σ : Type u} {answer : {β : Type} → Q β → σ → Outcome σ ε β} {s s' : σ} {e : ε}

@[simp] theorem not_done_fails {a : α} : ¬ (done a : Work Q ε α).Fails answer s e s' := by
  simp [Fails, run, Outcome.ok]

@[simp] theorem fail_fails {e' : ε} :
    (fail e' : Work Q ε α).Fails answer s e s' ↔ e' = e ∧ s = s' := by
  simp [Fails, run, Outcome.error]

theorem query_fails {q : Q α} : (query q : Work Q ε α).Fails answer s e s' ↔
    (answer q s).result = .error e ∧ (answer q s).state = s' := by
  rw [Fails, run_query_result, run_query_state]

/-- A sequence fails in its first part, or in the second on what the first left. -/
theorem bind_fails {w : Work Q ε α} {f : α → Work Q ε β} {s'' : σ} :
    (w >>= f).Fails answer s e s'' ↔
      w.Fails answer s e s'' ∨ ∃ a s', w.Returns answer s a s' ∧ (f a).Fails answer s' e s'' := by
  unfold Fails Returns
  rw [run_bind, Outcome.andThen]
  cases h : (w.run answer s).result with
  | error e' => simp
  | ok a =>
    constructor
    · intro hf
      exact .inr ⟨a, _, ⟨rfl, rfl⟩, hf⟩
    · rintro (⟨hw, -⟩ | ⟨a', _, ⟨ha, rfl⟩, hf⟩)
      · cases hw
      · cases ha
        exact hf

theorem bind_fails_left {w : Work Q ε α} {f : α → Work Q ε β} (h : w.Fails answer s e s') :
    (w >>= f).Fails answer s e s' :=
  bind_fails.mpr (.inl h)

theorem bind_fails_right {w : Work Q ε α} {f : α → Work Q ε β} {s'' : σ} (a : α)
    (hw : w.Returns answer s a s') (hf : (f a).Fails answer s' e s'') :
    (w >>= f).Fails answer s e s'' :=
  bind_fails.mpr (.inr ⟨a, s', hw, hf⟩)

@[simp] theorem map_fails {w : Work Q ε α} {f : α → β} :
    (f <$> w).Fails answer s e s' ↔ w.Fails answer s e s' := by
  have h : (f <$> w) = w >>= fun a => done (f a) := rfl
  rw [h, bind_fails]
  simp

@[simp] theorem discard_fails {w : Work Q ε α} :
    (discard w).Fails answer s e s' ↔ w.Fails answer s e s' :=
  map_fails

@[simp] theorem require_fails {p : Prop} [Decidable p] {e' : ε} :
    (require p e' : Work Q ε Unit).Fails answer s e s' ↔ ¬ p ∧ e' = e ∧ s = s' := by
  unfold require
  split <;> simp_all

@[simp] theorem orFail_fails {e' : ε} {o : Option α} :
    (orFail e' o : Work Q ε α).Fails answer s e s' ↔ o = none ∧ e' = e ∧ s = s' := by
  cases o <;> simp [orFail]

@[simp] theorem ofExcept_fails {r : Except ε α} :
    (ofExcept r : Work Q ε α).Fails answer s e s' ↔ r = .error e ∧ s = s' := by
  cases r <;> simp [ofExcept]

@[simp] theorem not_log_fails {line : LogLine} :
    ¬ (log line : Work Q ε Unit).Fails answer s e s' := by
  simp [log, Fails, run, Outcome.ok]

end

/-! ## Questions along a run -/

/-- `P` holds of every question that the run asks, with the store that the question reaches. -/
def Along.{u} {σ : Type u} (answer : {β : Type} → Q β → σ → Outcome σ ε β)
    (P : {β : Type} → Q β → σ → Prop) : Work Q ε α → σ → Prop
  | done _, _ => True
  | fail _, _ => True
  | note _ next, s => Along answer P next s
  | ask q next, s => P q s ∧ ∀ b, (answer q s).result = .ok b →
      Along answer P (next b) (answer q s).state

section

universe u

variable {σ : Type u} {answer : {β : Type} → Q β → σ → Outcome σ ε β}
  {P P' : {β : Type} → Q β → σ → Prop} {s : σ}

theorem Along.mono {w : Work Q ε α} (h : w.Along answer P s)
    (hP : ∀ {β : Type} (q : Q β) (s : σ), P q s → P' q s) : w.Along answer P' s := by
  induction w generalizing s with
  | done | fail => trivial
  | note _ next ih => exact ih h
  | ask q next ih => exact ⟨hP q s h.1, fun b hb => ih b (h.2 b hb)⟩

@[simp] theorem done_along {a : α} : (done a : Work Q ε α).Along answer P s := trivial

@[simp] theorem fail_along {e : ε} : (fail e : Work Q ε α).Along answer P s := trivial

@[simp] theorem query_along {q : Q α} : (query q : Work Q ε α).Along answer P s ↔ P q s := by
  simp [query, Along]

/-- A sequence asks what its first part asks, then what the second asks on what the first left. -/
theorem bind_along {w : Work Q ε α} {f : α → Work Q ε β} :
    (w >>= f).Along answer P s ↔
      w.Along answer P s ∧ ∀ a s', w.Returns answer s a s' → (f a).Along answer P s' := by
  induction w generalizing s with
  | done a =>
    simp only [done_bind, done_along, true_and, done_returns]
    constructor
    · rintro h _ _ ⟨rfl, rfl⟩
      exact h
    · intro h
      exact h a s ⟨rfl, rfl⟩
  | fail e => simp
  | note line next ih =>
    simp only [note_bind, Along, ih]
    rfl
  | ask q next ih =>
    simp only [ask_bind, Along, ih, and_assoc]
    refine and_congr_right fun _ => ?_
    constructor
    · intro h
      refine ⟨fun b hb => (h b hb).1, fun a s' hr => ?_⟩
      obtain ⟨hr, hs⟩ := hr
      simp only [run, Outcome.andThen] at hr hs
      split at hr
      · rename_i b hb
        simp only [hb] at hs
        exact (h b hb).2 a s' ⟨hr, hs⟩
      · cases hr
    · rintro ⟨hq, hf⟩ b hb
      refine ⟨hq b hb, fun a s' hr => hf a s' ?_⟩
      simpa [Returns, run, Outcome.andThen, hb] using hr

@[simp] theorem map_along {w : Work Q ε α} {f : α → β} :
    (f <$> w).Along answer P s ↔ w.Along answer P s := by
  have h : (f <$> w) = w >>= fun a => done (f a) := rfl
  rw [h, bind_along]
  simp

@[simp] theorem discard_along {w : Work Q ε α} :
    (discard w).Along answer P s ↔ w.Along answer P s :=
  map_along

@[simp] theorem require_along {p : Prop} [Decidable p] {e : ε} :
    (require p e : Work Q ε Unit).Along answer P s := by
  unfold require
  split <;> trivial

@[simp] theorem orFail_along {e : ε} {o : Option α} :
    (orFail e o : Work Q ε α).Along answer P s := by
  cases o <;> trivial

@[simp] theorem ofExcept_along {r : Except ε α} :
    (ofExcept r : Work Q ε α).Along answer P s := by
  cases r <;> trivial

@[simp] theorem log_along {line : LogLine} : (log line : Work Q ε Unit).Along answer P s := trivial

end

/-! ## Two runs -/

/-- The runs of `w` on two stores have the same result; after a value, `post` relates the stores. -/
def Agrees.{u} {σ : Type u} (answer : {β : Type} → Q β → σ → Outcome σ ε β) (w : Work Q ε α)
    (post : α → σ → σ → Prop) (s s' : σ) : Prop :=
  (w.run answer s).result = (w.run answer s').result ∧
    ∀ a, (w.run answer s).result = .ok a → post a (w.run answer s).state (w.run answer s').state

section

universe u

variable {σ : Type u} {answer : {β : Type} → Q β → σ → Outcome σ ε β} {s s' : σ}
  {post : α → σ → σ → Prop} {R : σ → σ → Prop}

theorem done_agrees {a : α} (h : post a s s') : (done a : Work Q ε α).Agrees answer post s s' :=
  ⟨rfl, fun _ hb => by cases hb; exact h⟩

theorem fail_agrees (e : ε) : (fail e : Work Q ε α).Agrees answer post s s' :=
  ⟨rfl, fun _ hb => by cases hb⟩

theorem query_agrees {q : Q α} (hr : (answer q s).result = (answer q s').result)
    (hp : ∀ a, (answer q s).result = .ok a → post a (answer q s).state (answer q s').state) :
    (query q : Work Q ε α).Agrees answer post s s' := by
  unfold Agrees
  simp only [run_query_result, run_query_state]
  exact ⟨hr, hp⟩

/-- Two runs that agree go on with the same work. -/
theorem bind_agrees {w : Work Q ε α} {f : α → Work Q ε β} {post' : β → σ → σ → Prop}
    (hw : w.Agrees answer post s s')
    (hf : ∀ a t t', post a t t' → (f a).Agrees answer post' t t') :
    (w >>= f).Agrees answer post' s s' := by
  obtain ⟨hr, hpost⟩ := hw
  unfold Agrees
  rw [run_bind, run_bind, Outcome.andThen, Outcome.andThen, ← hr]
  cases h : (w.run answer s).result with
  | error e => exact ⟨rfl, fun _ hb => by cases hb⟩
  | ok a => exact hf a _ _ (hpost a h)

theorem map_agrees {w : Work Q ε α} {f : α → β} {post' : β → σ → σ → Prop}
    (hw : w.Agrees answer (fun a => post' (f a)) s s') : (f <$> w).Agrees answer post' s s' :=
  bind_agrees hw fun _ _ _ h => done_agrees h

theorem discard_agrees {w : Work Q ε α} (hw : w.Agrees answer (fun _ => R) s s') :
    (discard w).Agrees answer (fun _ => R) s s' :=
  map_agrees hw

theorem require_agrees {p : Prop} [Decidable p] {e : ε} (h : p → R s s') :
    (require p e : Work Q ε Unit).Agrees answer (fun _ => R) s s' := by
  unfold require
  split
  · exact done_agrees (h ‹_›)
  · exact fail_agrees e

theorem ofExcept_agrees {r : Except ε α} (h : ∀ a, r = .ok a → post a s s') :
    (ofExcept r : Work Q ε α).Agrees answer post s s' := by
  cases r with
  | error e => exact fail_agrees e
  | ok a => exact done_agrees (h a rfl)

theorem log_agrees {line : LogLine} (h : R s s') :
    (log line : Work Q ε Unit).Agrees answer (fun _ => R) s s' :=
  ⟨rfl, fun _ _ => h⟩

/-- A check leaves both stores as they are. -/
theorem require_bind_agrees {p : Prop} [Decidable p] {e : ε} {f : Unit → Work Q ε α}
    (h : p → (f ()).Agrees answer post s s') : (require p e >>= f).Agrees answer post s s' := by
  unfold require
  split
  · exact h ‹_›
  · exact fail_agrees e

theorem orFail_bind_agrees {e : ε} {o : Option β} {f : β → Work Q ε α}
    (h : ∀ b, o = some b → (f b).Agrees answer post s s') :
    (orFail e o >>= f).Agrees answer post s s' := by
  cases o with
  | none => exact fail_agrees e
  | some b => exact h b rfl

end

end Work

end Marketplace
