import Mathlib.Algebra.BigOperators.Group.List.Basic
import Mathlib.Algebra.Ring.Int.Defs
import Mathlib.Data.List.Sort
import Marketplace.Table

/-!
# Tables as sets of rows, and sums over them

* `get?_eq_some_iff`, `mem_values_iff`, `mem_keys_iff`: the rows of a table are what `get?` finds.
* `get?_insert_eq_some_iff`, `get?_erase_eq_some_iff`: where a row found after a change comes from.
* `ext_get?`: a table is what `get?` finds. `insert_comm`, `insert_insert` and `insert_self` follow.
* `values_insert_of_lt`: a row under a key above all others comes last.
* `Table.sum f t`: the sum of `f` over the rows. `sum_insert` and `sum_erase` say how one changed
  row changes it.
-/

namespace Marketplace

namespace Table

variable {α : Type}

theorem find?_eq_some_of_mem {rows : List (Int64 × α)} (h : rows.Pairwise fun a b => a.1 < b.1)
    {k : Int64} {a : α} (hm : (k, a) ∈ rows) : rows.find? (·.1 = k) = some (k, a) := by
  induction rows with
  | nil => cases hm
  | cons r rows ih =>
    rw [List.pairwise_cons] at h
    rcases List.mem_cons.mp hm with rfl | hm
    · simp
    · have hne : r.1 ≠ k := Int64.ne_of_lt (h.1 _ hm)
      rw [List.find?_cons_of_neg (by simpa using hne)]
      exact ih h.2 hm

/-- A key that is below all keys of the rows is none of them. -/
theorem find?_eq_none_of_lt {rows : List (Int64 × α)} {k : Int64} (h : ∀ r ∈ rows, k < r.1) :
    rows.find? (·.1 = k) = none := by
  rw [List.find?_eq_none]
  intro r hr
  have := Int64.ne_of_lt (h r hr)
  simpa using this.symm

theorem get?_eq_some_iff {t : Table α} {k : Int64} {a : α} :
    t.get? k = some a ↔ (k, a) ∈ t.rows := by
  unfold get?
  constructor
  · intro h
    obtain ⟨⟨j, b⟩, hf, rfl⟩ := Option.map_eq_some_iff.mp h
    obtain rfl : j = k := by simpa using List.find?_some hf
    exact List.mem_of_find?_eq_some hf
  · intro h
    rw [find?_eq_some_of_mem t.increasing h]
    rfl

theorem mem_values_iff {t : Table α} {a : α} : a ∈ t.values ↔ ∃ k, t.get? k = some a := by
  simp [values, get?_eq_some_iff]

theorem mem_keys_iff {t : Table α} {k : Int64} : k ∈ t.keys ↔ ∃ a, t.get? k = some a := by
  simp [keys, get?_eq_some_iff]

theorem get?_insert_self (t : Table α) (k : Int64) (a : α) : (t.insert k a).get? k = some a := by
  rw [get?_insert, if_pos rfl]

theorem get?_insert_eq_some_iff {t : Table α} {k j : Int64} {a b : α} :
    (t.insert k a).get? j = some b ↔ k = j ∧ a = b ∨ k ≠ j ∧ t.get? j = some b := by
  rw [get?_insert]
  split <;> simp_all

theorem get?_erase_eq_some_iff {t : Table α} {k j : Int64} {b : α} :
    (t.erase k).get? j = some b ↔ k ≠ j ∧ t.get? j = some b := by
  rw [get?_erase]
  split <;> simp_all

/-! ## Tables with the same rows -/

/-- Rows in increasing order of their keys are told by which they are. -/
theorem rows_eq_of_mem_iff {rows rows' : List (Int64 × α)}
    (h : rows.Pairwise fun a b => a.1 < b.1) (h' : rows'.Pairwise fun a b => a.1 < b.1)
    (hm : ∀ r, r ∈ rows ↔ r ∈ rows') : rows = rows' := by
  have : Std.Irrefl fun a b : Int64 × α => a.1 < b.1 := ⟨fun _ => Int64.lt_irrefl⟩
  have : Std.Antisymm fun a b : Int64 × α => a.1 < b.1 :=
    ⟨fun _ _ hab hba => (Int64.lt_irrefl (Int64.lt_trans hab hba)).elim⟩
  exact h.eq_of_mem_iff h' hm

theorem ext_rows {t t' : Table α} (h : t.rows = t'.rows) : t = t' := by
  cases t
  cases t'
  cases h
  rfl

theorem ext_get? {t t' : Table α} (h : ∀ k, t.get? k = t'.get? k) : t = t' := by
  refine ext_rows (rows_eq_of_mem_iff t.increasing t'.increasing ?_)
  rintro ⟨k, a⟩
  rw [← get?_eq_some_iff, ← get?_eq_some_iff, h]

theorem insert_insert (t : Table α) (k : Int64) (a b : α) :
    (t.insert k a).insert k b = t.insert k b := by
  refine ext_get? fun j => ?_
  simp only [get?_insert]
  split <;> rfl

theorem insert_comm {k j : Int64} (h : k ≠ j) (t : Table α) (a b : α) :
    (t.insert k a).insert j b = (t.insert j b).insert k a := by
  refine ext_get? fun i => ?_
  simp only [get?_insert]
  by_cases hk : k = i
  · subst hk
    simp [h.symm]
  · simp [hk]

/-- A row that is there already changes nothing. -/
theorem insert_self {t : Table α} {k : Int64} {a : α} (h : t.get? k = some a) :
    t.insert k a = t := by
  refine ext_get? fun j => ?_
  rw [get?_insert]
  split
  · rename_i hk
    rw [← hk, h]
  · rfl

/-! ## A row behind all others -/

theorem insertRow_of_lt {rows : List (Int64 × α)} {k : Int64} (a : α) (h : ∀ r ∈ rows, r.1 < k) :
    insertRow k a rows = rows ++ [(k, a)] := by
  induction rows with
  | nil => rfl
  | cons r rows ih =>
    obtain ⟨hr, hrows⟩ := List.forall_mem_cons.mp h
    have hlt : ¬ k < r.1 := Int64.lt_asymm hr
    have hne : k ≠ r.1 := (Int64.ne_of_lt hr).symm
    rw [insertRow, if_neg hlt, if_neg hne, ih hrows]
    rfl

/-- A row under a key above all others comes last. -/
theorem values_insert_of_lt {t : Table α} {k : Int64} (a : α)
    (h : ∀ j b, t.get? j = some b → j < k) : (t.insert k a).values = t.values ++ [a] := by
  have hrows : ∀ r ∈ t.rows, r.1 < k := fun r hr => h r.1 r.2 (get?_eq_some_iff.mpr hr)
  have hlast : (t.insert k a).rows = t.rows ++ [(k, a)] := insertRow_of_lt a hrows
  simp [values, hlast]

/-! ## Sums -/

/-- The sum of `f` over the rows. -/
def sum (f : α → Int) (t : Table α) : Int := (t.values.map f).sum

theorem sum_eq_rows (f : α → Int) (t : Table α) : t.sum f = (t.rows.map fun r => f r.2).sum := by
  simp [sum, values, Function.comp_def]

theorem sum_insertRow (f : α → Int) (k : Int64) (a : α) {rows : List (Int64 × α)}
    (h : rows.Pairwise fun a b => a.1 < b.1) :
    ((insertRow k a rows).map fun r => f r.2).sum + ((rows.find? (·.1 = k)).map (·.2)).elim 0 f
      = (rows.map fun r => f r.2).sum + f a := by
  induction rows with
  | nil => simp [insertRow]
  | cons r rows ih =>
    obtain ⟨j, b⟩ := r
    rw [List.pairwise_cons] at h
    simp only [insertRow]
    split
    · -- The new key comes first, so it replaces nothing.
      rename_i hlt
      rw [find?_eq_none_of_lt]
      · simp; omega
      · intro r hr
        rcases List.mem_cons.mp hr with rfl | hr
        · exact hlt
        · exact Int64.lt_trans hlt (h.1 r hr)
    · split
      · rename_i he
        subst he
        simp; omega
      · rename_i hne
        rw [List.find?_cons_of_neg (by simpa using Ne.symm hne)]
        have := ih h.2
        simp only [List.map_cons, List.sum_cons]
        omega

/-- An inserted row adds its own part and takes away that of the row it replaces. -/
theorem sum_insert (f : α → Int) (t : Table α) (k : Int64) (a : α) :
    (t.insert k a).sum f + (t.get? k).elim 0 f = t.sum f + f a := by
  rw [sum_eq_rows, sum_eq_rows]
  exact sum_insertRow f k a t.increasing

theorem sum_filter_ne (f : α → Int) (k : Int64) {rows : List (Int64 × α)}
    (h : rows.Pairwise fun a b => a.1 < b.1) :
    ((rows.filter (·.1 ≠ k)).map fun r => f r.2).sum + ((rows.find? (·.1 = k)).map (·.2)).elim 0 f
      = (rows.map fun r => f r.2).sum := by
  induction rows with
  | nil => simp
  | cons r rows ih =>
    rw [List.pairwise_cons] at h
    by_cases hr : r.1 = k
    · subst hr
      have hall : rows.filter (·.1 ≠ r.1) = rows :=
        List.filter_eq_self.mpr fun x hx => by simpa using (Int64.ne_of_lt (h.1 x hx)).symm
      rw [List.filter_cons_of_neg (by simp), hall]
      simp; omega
    · rw [List.find?_cons_of_neg (by simpa using hr), List.filter_cons_of_pos (by simpa using hr)]
      have := ih h.2
      simp only [List.map_cons, List.sum_cons]
      omega

theorem sum_erase (f : α → Int) (t : Table α) (k : Int64) :
    (t.erase k).sum f + (t.get? k).elim 0 f = t.sum f := by
  rw [sum_eq_rows, sum_eq_rows]
  exact sum_filter_ne f k t.increasing

theorem sum_map_filter_ne_zero (parts : List (Int64 × Int)) :
    ((parts.filter (·.2 ≠ 0)).map (·.2)).sum = (parts.map (·.2)).sum := by
  induction parts with
  | nil => rfl
  | cons r parts ih =>
    by_cases h : r.2 = 0
    · rw [List.filter_cons_of_neg (by simpa using h), ih]
      simp [h]
    · rw [List.filter_cons_of_pos (by simpa using h)]
      simp only [List.map_cons, List.sum_cons, ih]

/-- Sums with the same parts other than zero under each key are the same. -/
theorem sum_eq_of_parts {β : Type} {f : α → Int} {g : β → Int} {t : Table α} {t' : Table β}
    (h : ∀ k x, x ≠ 0 →
      ((∃ a, t.get? k = some a ∧ f a = x) ↔ ∃ b, t'.get? k = some b ∧ g b = x)) :
    t.sum f = t'.sum g := by
  have increasing {γ : Type} (u : Table γ) (f : γ → Int) :
      ((u.rows.map fun r => (r.1, f r.2)).filter (·.2 ≠ 0)).Pairwise fun a b => a.1 < b.1 := by
    refine List.Pairwise.filter _ ?_
    rw [List.pairwise_map]
    exact u.increasing
  have hparts : (t.rows.map fun r => (r.1, f r.2)).filter (·.2 ≠ 0)
      = (t'.rows.map fun r => (r.1, g r.2)).filter (·.2 ≠ 0) := by
    refine rows_eq_of_mem_iff (increasing t f) (increasing t' g) ?_
    rintro ⟨k, x⟩
    have := h k x
    simp only [get?_eq_some_iff] at this
    simp only [List.mem_filter, List.mem_map, Prod.mk.injEq, Prod.exists, decide_eq_true_eq]
    constructor
    · rintro ⟨⟨j, a, hm, rfl, hx⟩, hne⟩
      obtain ⟨b, hm', hx'⟩ := (this hne).mp ⟨a, hm, hx⟩
      exact ⟨⟨j, b, hm', rfl, hx'⟩, hne⟩
    · rintro ⟨⟨j, b, hm, rfl, hx⟩, hne⟩
      obtain ⟨a, hm', hx'⟩ := (this hne).mpr ⟨b, hm, hx⟩
      exact ⟨⟨j, a, hm', rfl, hx'⟩, hne⟩
  have hsum := congrArg (fun parts => (parts.map (·.2)).sum) hparts
  simp only [sum_map_filter_ne_zero, List.map_map] at hsum
  rw [sum_eq_rows, sum_eq_rows]
  exact hsum

/-- The sum of a sum of two functions. -/
theorem sum_add (f g : α → Int) (t : Table α) : (t.sum fun a => f a + g a) = t.sum f + t.sum g :=
  List.sum_map_add

end Table

end Marketplace
