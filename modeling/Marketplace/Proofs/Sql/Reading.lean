import Mathlib.Data.List.Forall2
import Marketplace.Sql.Statement

/-!
# Readings that succeed and fail

Replies are read by computations that may fail. These lemmas tell when a sequence of two, or one
with its value or its errors changed, succeeds and when it fails, and when the rows of a reply are
read (`first?_eq_some_iff`, `rows?_eq_ok_iff`).
-/

namespace Marketplace

variable {ε ε' α β : Type} {x : Except ε α} {f : α → Except ε β} {g : ε → ε'}

theorem bind_eq_ok_iff {b : β} : x >>= f = .ok b ↔ ∃ a, x = .ok a ∧ f a = .ok b := by
  cases x with
  | error e => exact ⟨fun h => (nomatch h), fun ⟨_, h, _⟩ => (nomatch h)⟩
  | ok a =>
    constructor
    · intro h
      exact ⟨a, rfl, h⟩
    · rintro ⟨_, h, hf⟩
      cases h
      exact hf

theorem bind_eq_error_iff {e : ε} :
    x >>= f = .error e ↔ x = .error e ∨ ∃ a, x = .ok a ∧ f a = .error e := by
  cases x with
  | error e' =>
    constructor
    · intro h
      cases h
      exact .inl rfl
    · rintro (h | ⟨_, h, _⟩)
      · cases h
        rfl
      · cases h
  | ok a =>
    constructor
    · intro h
      exact .inr ⟨a, rfl, h⟩
    · rintro (h | ⟨_, h, hf⟩)
      · cases h
      · cases h
        exact hf

theorem map_eq_ok_iff {g : α → β} {b : β} : x.map g = .ok b ↔ ∃ a, x = .ok a ∧ g a = b := by
  cases x <;> simp [Except.map]

@[simp] theorem mapError_ok (a : α) : (.ok a : Except ε α).mapError g = .ok a := rfl

@[simp] theorem mapError_error (e : ε) : (.error e : Except ε α).mapError g = .error (g e) := rfl

theorem mapError_eq_ok_iff {a : α} : x.mapError g = .ok a ↔ x = .ok a := by
  cases x <;> simp

theorem mapError_eq_error_iff {e : ε'} :
    x.mapError g = .error e ↔ ∃ e', x = .error e' ∧ g e' = e := by
  cases x <;> simp

/-- A list is read by reading its elements one by one. -/
theorem mapM_eq_ok_iff {xs : List α} {ys : List β} :
    xs.mapM f = .ok ys ↔ xs.Forall₂ (fun a b => f a = .ok b) ys := by
  induction xs generalizing ys with
  | nil =>
    rw [List.mapM_nil, List.forall₂_nil_left_iff]
    exact ⟨fun h => by cases h; rfl, fun h => by rw [h]; rfl⟩
  | cons a xs ih =>
    rw [List.mapM_cons, bind_eq_ok_iff, List.forall₂_cons_left_iff]
    simp only [bind_eq_ok_iff, ih]
    constructor
    · rintro ⟨b, hb, bs, hbs, h⟩
      cases h
      exact ⟨b, bs, hb, hbs, rfl⟩
    · rintro ⟨b, bs, hb, hbs, rfl⟩
      exact ⟨b, hb, bs, hbs, rfl⟩

/-- A list is refused for the first of its elements that is. -/
theorem mapM_eq_error_of_find? {refused : α → Bool} {xs : List α} {a : α} {e : ε}
    (hread : ∀ b ∈ xs, refused b = false → ∃ c, f b = .ok c) (hfirst : xs.find? refused = some a)
    (ha : f a = .error e) : xs.mapM f = .error e := by
  induction xs with
  | nil => cases hfirst
  | cons b xs ih =>
    rw [List.mapM_cons, bind_eq_error_iff]
    cases hb : refused b with
    | true =>
      rw [List.find?_cons_of_pos hb] at hfirst
      obtain rfl := Option.some.inj hfirst
      exact .inl ha
    | false =>
      rw [List.find?_cons_of_neg (by simp [hb])] at hfirst
      obtain ⟨c, hc⟩ := hread b List.mem_cons_self hb
      have hrest := ih (fun b hb => hread b (List.mem_cons_of_mem _ hb)) hfirst
      exact .inr ⟨c, hc, bind_eq_error_iff.mpr (.inl hrest)⟩

theorem exists_forall₂_of_forall_mem {R : α → β → Prop} {xs : List α}
    (h : ∀ a ∈ xs, ∃ b, R a b) : ∃ ys, xs.Forall₂ R ys := by
  induction xs with
  | nil => exact ⟨[], .nil⟩
  | cons a xs ih =>
    obtain ⟨b, hb⟩ := h a List.mem_cons_self
    obtain ⟨bs, hbs⟩ := ih fun a ha => h a (List.mem_cons_of_mem _ ha)
    exact ⟨b :: bs, .cons hb hbs⟩

theorem of_mem_of_mapM_eq_ok {xs : List α} {ys : List β} (h : xs.mapM f = .ok ys) :
    ∀ a ∈ xs, ∃ b, f a = .ok b := by
  induction xs generalizing ys with
  | nil => simp
  | cons a xs ih =>
    rw [List.mapM_cons] at h
    obtain ⟨b, hb, h⟩ := bind_eq_ok_iff.mp h
    obtain ⟨bs, hbs, -⟩ := bind_eq_ok_iff.mp h
    intro a' ha'
    rcases List.mem_cons.mp ha' with rfl | ha'
    · exact ⟨b, hb⟩
    · exact ih hbs a' ha'

/-! ## Rows -/

namespace Sql.Reply

variable {read : RowReader α} {r : Reply}

theorem first?_eq_some_iff {a : α} : r.first? read = .ok (some a) ↔
    ∃ values others, r = .rows (values :: others) ∧ read values = .ok a := by
  have hsome {x : Except StorageFault α} : some <$> x = .ok (some a) ↔ x = .ok a := by
    cases x <;> simp
  cases r with
  | rows list => cases list <;> simp [first?, check, rowList, bind_eq_ok_iff, hsome, pure, Except.pure]
  | affected | nothing => simp [first?, check, rowList, bind_eq_ok_iff, pure, Except.pure]
  | refused => simp [first?, check, bind_eq_ok_iff]

theorem rows?_eq_ok_iff {as : List α} : r.rows? read = .ok as ↔
    r.check = .ok () ∧ r.rowList.Forall₂ (fun values a => read values = .ok a) as := by
  rw [rows?, bind_eq_ok_iff]
  simp only [mapM_eq_ok_iff]
  constructor
  · rintro ⟨⟨⟩, hcheck, h⟩
    exact ⟨hcheck, h⟩
  · rintro ⟨hcheck, h⟩
    exact ⟨(), hcheck, h⟩

end Sql.Reply

end Marketplace
