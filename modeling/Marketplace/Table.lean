/-!
# Tables

A `Table α` keeps rows under 64-bit keys, in increasing order of the keys, each key once.

* `get?`, `insert`, `erase`, `modify` work on one row; `keys` and `values` list the rows in order.
* `get?_insert`, `get?_erase`, `get?_modify` say what each operation does to each row.
-/

namespace Marketplace

/-- Rows in increasing order of their keys. -/
structure Table (α : Type) where
  rows : List (Int64 × α)
  increasing : rows.Pairwise fun a b => a.1 < b.1

namespace Table

variable {α : Type}

def empty : Table α := ⟨[], .nil⟩

instance : EmptyCollection (Table α) := ⟨empty⟩

/-- The keys in increasing order. -/
def keys (t : Table α) : List Int64 := t.rows.map (·.1)

/-- The rows in increasing order of their keys. -/
def values (t : Table α) : List α := t.rows.map (·.2)

/-- The row of a key. -/
def get? (t : Table α) (k : Int64) : Option α := (t.rows.find? (·.1 = k)).map (·.2)

/-- A sorted list of rows with one more row, in place of one of the same key. -/
def insertRow (k : Int64) (a : α) : List (Int64 × α) → List (Int64 × α)
  | [] => [(k, a)]
  | (j, b) :: rows =>
    if k < j then (k, a) :: (j, b) :: rows
    else if k = j then (k, a) :: rows
    else (j, b) :: insertRow k a rows

theorem mem_insertRow {k : Int64} {a : α} {rows : List (Int64 × α)} {r : Int64 × α}
    (h : r ∈ insertRow k a rows) : r = (k, a) ∨ r ∈ rows := by
  induction rows with
  | nil => simpa [insertRow] using h
  | cons b rows ih =>
    simp only [insertRow] at h
    split at h
    · simpa using h
    · split at h
      · exact (List.mem_cons.1 h).imp id (List.mem_cons_of_mem b)
      · rcases List.mem_cons.1 h with rfl | h
        · exact .inr List.mem_cons_self
        · exact (ih h).imp id (List.mem_cons_of_mem b)

theorem insertRow_increasing {k : Int64} {a : α} {rows : List (Int64 × α)}
    (h : rows.Pairwise fun a b => a.1 < b.1) :
    (insertRow k a rows).Pairwise fun a b => a.1 < b.1 := by
  induction rows with
  | nil => simp [insertRow]
  | cons b rows ih =>
    obtain ⟨j, b⟩ := b
    rw [List.pairwise_cons] at h
    simp only [insertRow]
    split
    · rename_i hk
      refine List.pairwise_cons.2 ⟨fun r hr => ?_, List.pairwise_cons.2 h⟩
      rcases List.mem_cons.1 hr with rfl | hr
      · exact hk
      · exact Int64.lt_trans hk (h.1 r hr)
    · split
      · rename_i hk
        subst hk
        exact List.pairwise_cons.2 ⟨h.1, h.2⟩
      · rename_i hk hne
        refine List.pairwise_cons.2 ⟨fun r hr => ?_, ih h.2⟩
        rcases mem_insertRow hr with rfl | hr
        · exact Int64.lt_of_le_of_ne (Int64.not_lt.1 hk) (Ne.symm hne)
        · exact h.1 r hr

/-- The table with this row under this key. -/
def insert (t : Table α) (k : Int64) (a : α) : Table α :=
  ⟨insertRow k a t.rows, insertRow_increasing t.increasing⟩

/-- The table without the row of a key. -/
def erase (t : Table α) (k : Int64) : Table α :=
  ⟨t.rows.filter (·.1 ≠ k), t.increasing.filter _⟩

/-- The table with the row of a key, if it has one, changed. -/
def modify (t : Table α) (k : Int64) (f : α → α) : Table α :=
  ⟨t.rows.map fun r => if r.1 = k then (r.1, f r.2) else r,
    t.increasing.map _ fun a b h => by split <;> split <;> exact h⟩

/-! ## What the operations do to each row -/

@[simp] theorem get?_empty (k : Int64) : (∅ : Table α).get? k = none := rfl

theorem find?_insertRow (k : Int64) (a : α) (rows : List (Int64 × α)) (j : Int64) :
    ((insertRow k a rows).find? (·.1 = j)).map (·.2)
      = if k = j then some a else (rows.find? (·.1 = j)).map (·.2) := by
  induction rows with
  | nil => by_cases h : k = j <;> simp [insertRow, h]
  | cons b rows ih =>
    obtain ⟨i, b⟩ := b
    simp only [insertRow]
    split
    · by_cases h : k = j <;> simp [h]
    · split
      · rename_i hk
        subst hk
        by_cases h : k = j <;> simp [h]
      · rename_i hk
        by_cases h : i = j
        · subst h; simp [hk]
        · simpa [h] using ih

theorem get?_insert (t : Table α) (k : Int64) (a : α) (j : Int64) :
    (t.insert k a).get? j = if k = j then some a else t.get? j :=
  find?_insertRow k a t.rows j

theorem get?_erase (t : Table α) (k j : Int64) :
    (t.erase k).get? j = if k = j then none else t.get? j := by
  simp only [get?, erase, List.find?_filter]
  split
  · rename_i h
    subst h
    simp
  · rename_i h
    congr 2
    funext r
    by_cases hr : r.1 = j <;> simp [hr, Ne.symm h]

theorem find?_map_modify (k : Int64) (f : α → α) (rows : List (Int64 × α)) (j : Int64) :
    ((rows.map fun r => if r.1 = k then (r.1, f r.2) else r).find? (·.1 = j)).map (·.2)
      = if k = j then ((rows.find? (·.1 = j)).map (·.2)).map f
        else (rows.find? (·.1 = j)).map (·.2) := by
  induction rows with
  | nil => simp
  | cons b rows ih =>
    by_cases hk : b.1 = k <;> by_cases hj : b.1 = j <;> by_cases h : k = j <;> simp_all

theorem get?_modify (t : Table α) (k : Int64) (f : α → α) (j : Int64) :
    (t.modify k f).get? j = if k = j then (t.get? j).map f else t.get? j :=
  find?_map_modify k f t.rows j

end Table

end Marketplace
