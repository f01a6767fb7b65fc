import Mathlib.Data.List.Nodup
import Mathlib.Data.List.Perm.Basic

/-! Tables with a primary key. Distinct keys are a field of the structure, so
no operation can build two rows with one key. Row order carries no meaning. -/
namespace Relational

structure Table {α κ : Type} (key : α → κ) where
  rows : List α
  distinct : (rows.map key).Nodup

namespace Table
variable {α κ : Type} {key : α → κ}

instance : Membership α (Table key) := ⟨fun table row => row ∈ table.rows⟩

theorem mem_rows {table : Table key} {row : α} : row ∈ table.rows ↔ row ∈ table := Iff.rfl

theorem ext {first second : Table key} (same : first.rows = second.rows) : first = second := by
  cases first
  cases second
  cases same
  rfl

theorem eq_of_key {table : Table key} {first second : α} (left : first ∈ table)
    (right : second ∈ table) (same : key first = key second) : first = second :=
  List.inj_on_of_nodup_map table.distinct left right same

def empty : Table key := ⟨[], List.nodup_nil⟩

@[simp] theorem not_mem_empty (row : α) : row ∉ (empty : Table key) := List.not_mem_nil

variable [DecidableEq κ]

def find? (table : Table key) (k : κ) : Option α := table.rows.find? fun row => key row = k

theorem find?_eq_some {table : Table key} {k : κ} {row : α} :
    table.find? k = some row ↔ row ∈ table ∧ key row = k := by
  constructor
  · intro found
    exact ⟨List.mem_of_find?_eq_some found, by simpa using List.find?_some found⟩
  · rintro ⟨member, rfl⟩
    cases found : table.find? (key row) with
    | none =>
      have absent := List.find?_eq_none.mp found row member
      simp at absent
    | some other =>
      have same : key other = key row := by simpa using List.find?_some found
      exact congrArg some (eq_of_key (List.mem_of_find?_eq_some found) member same)

theorem find?_eq_none {table : Table key} {k : κ} :
    table.find? k = none ↔ ∀ row ∈ table, key row ≠ k := by
  simp only [find?, List.find?_eq_none, decide_eq_true_eq]
  exact Iff.rfl

theorem find?_isSome {table : Table key} {k : κ} :
    (table.find? k).isSome ↔ ∃ row ∈ table, key row = k := by
  rw [Option.isSome_iff_exists]
  simp only [find?_eq_some]

theorem find?_self {table : Table key} {row : α} (member : row ∈ table) :
    table.find? (key row) = some row := find?_eq_some.mpr ⟨member, rfl⟩

/-- `INSERT`, for a key that no row has. -/
def insert (table : Table key) (row : α) (fresh : table.find? (key row) = none) : Table key where
  rows := row :: table.rows
  distinct := by
    rw [List.map_cons, List.nodup_cons]
    refine ⟨?_, table.distinct⟩
    intro member
    obtain ⟨other, stored, same⟩ := List.mem_map.mp member
    exact find?_eq_none.mp fresh other stored same

/-- `UPDATE` of the row that has the key of the given one, if there is such a row. -/
def put (table : Table key) (row : α) : Table key where
  rows := table.rows.map fun old => if key old = key row then row else old
  distinct := by
    have keys : (table.rows.map fun old => if key old = key row then row else old).map key =
        table.rows.map key := by
      rw [List.map_map]
      apply List.map_congr_left
      intro old _
      simp only [Function.comp_apply]
      split
      · next same => exact same.symm
      · rfl
    rw [keys]
    exact table.distinct

/-- `DELETE` by key. -/
def erase (table : Table key) (k : κ) : Table key where
  rows := table.rows.filter fun row => key row ≠ k
  distinct := (List.Sublist.map key List.filter_sublist).nodup table.distinct

theorem rows_insert (table : Table key) (row : α) (fresh : table.find? (key row) = none) :
    (table.insert row fresh).rows = row :: table.rows := rfl

theorem rows_put (table : Table key) (row : α) :
    (table.put row).rows = table.rows.map fun old => if key old = key row then row else old := rfl

theorem rows_erase (table : Table key) (k : κ) :
    (table.erase k).rows = table.rows.filter fun row => key row ≠ k := rfl

@[simp] theorem mem_insert {table : Table key} {row other : α}
    (fresh : table.find? (key row) = none) :
    other ∈ table.insert row fresh ↔ other = row ∨ other ∈ table := List.mem_cons

@[simp] theorem mem_erase {table : Table key} {k : κ} {row : α} :
    row ∈ table.erase k ↔ row ∈ table ∧ key row ≠ k := by
  simp only [← mem_rows, erase, List.mem_filter, decide_eq_true_eq]

theorem mem_put {table : Table key} {row other : α} :
    other ∈ table.put row ↔
      (other = row ∧ ∃ old ∈ table, key old = key row) ∨ (other ∈ table ∧ key other ≠ key row) := by
  simp only [← mem_rows, put, List.mem_map]
  constructor
  · rintro ⟨old, stored, rfl⟩
    by_cases same : key old = key row
    · simp only [if_pos same]
      exact Or.inl ⟨trivial, old, stored, same⟩
    · simp only [if_neg same]
      exact Or.inr ⟨stored, same⟩
  · rintro (⟨rfl, old, stored, same⟩ | ⟨stored, different⟩)
    · exact ⟨old, stored, if_pos same⟩
    · exact ⟨other, stored, if_neg different⟩

/-- Updating a stored row replaces it and leaves every other row as it was. -/
theorem mem_put_of_find {table : Table key} {row old other : α}
    (found : table.find? (key row) = some old) :
    other ∈ table.put row ↔ other = row ∨ (other ∈ table ∧ key other ≠ key row) := by
  obtain ⟨stored, same⟩ := find?_eq_some.mp found
  rw [mem_put]
  exact or_congr_left ⟨fun h => h.1, fun h => ⟨h, old, stored, same⟩⟩

theorem find?_insert {table : Table key} {row : α} (fresh : table.find? (key row) = none) (k : κ) :
    (table.insert row fresh).find? k = if key row = k then some row else table.find? k := by
  simp only [insert, find?, List.find?_cons]
  split <;> simp_all

theorem find?_erase {table : Table key} (removed k : κ) :
    (table.erase removed).find? k = if k = removed then none else table.find? k := by
  split
  · next same => exact find?_eq_none.mpr fun row member => same ▸ (mem_erase.mp member).2
  · next different =>
    apply Option.ext
    intro row
    simp only [find?_eq_some, mem_erase]
    constructor
    · rintro ⟨⟨stored, _⟩, rfl⟩
      exact ⟨stored, rfl⟩
    · rintro ⟨stored, rfl⟩
      exact ⟨⟨stored, different⟩, rfl⟩

theorem filter_erase_apart {table : Table key} {k : κ} {p : α → Bool}
    (apart : ∀ row, table.find? k = some row → p row = false) :
    (table.erase k).rows.filter p = table.rows.filter p := by
  rw [rows_erase, List.filter_filter]
  refine List.filter_congr fun row member => ?_
  by_cases same : key row = k
  · rw [apart row (find?_eq_some.mpr ⟨member, same⟩), Bool.false_and]
  · rw [decide_eq_true same, Bool.and_true]

theorem filter_put_apart {table : Table key} {row old : α} (found : table.find? (key row) = some old)
    {p : α → Bool} (before : p old = false) (after : p row = false) :
    (table.put row).rows.filter p = table.rows.filter p := by
  obtain ⟨stored, keyed⟩ := find?_eq_some.mp found
  have only {other : α} (member : other ∈ table.rows) (same : key other = key row) : other = old :=
    eq_of_key member stored (same.trans keyed.symm)
  rw [rows_put, List.filter_map]
  have kept : table.rows.filter (p ∘ fun other => if key other = key row then row else other) =
      table.rows.filter p := by
    refine List.filter_congr fun other member => ?_
    by_cases same : key other = key row
    · rw [Function.comp, if_pos same, after, only member same, before]
    · simp only [Function.comp, if_neg same]
  have unchanged : ∀ other ∈ table.rows.filter p,
      (if key other = key row then row else other) = other := by
    intro other member
    obtain ⟨listed, shown⟩ := List.mem_filter.mp member
    refine if_neg fun same => ?_
    rw [only listed same, before] at shown
    cases shown
  rw [kept]
  exact (List.map_congr_left unchanged).trans (List.map_id' _)

theorem find?_put {table : Table key} {row old : α} (found : table.find? (key row) = some old)
    (k : κ) : (table.put row).find? k = if key row = k then some row else table.find? k := by
  split
  · next same => exact find?_eq_some.mpr ⟨(mem_put_of_find found).mpr (Or.inl rfl), same⟩
  · next different =>
    apply Option.ext
    intro other
    simp only [find?_eq_some, mem_put_of_find found]
    constructor
    · rintro ⟨rfl | ⟨stored, _⟩, rfl⟩
      · exact absurd rfl different
      · exact ⟨stored, rfl⟩
    · rintro ⟨stored, rfl⟩
      exact ⟨Or.inr ⟨stored, fun same => different same.symm⟩, rfl⟩

theorem find?_put_isSome {table : Table key} {row : α} (k : κ) :
    ((table.put row).find? k).isSome = (table.find? k).isSome := by
  rw [Bool.eq_iff_iff, find?_isSome, find?_isSome]
  constructor
  · rintro ⟨other, member, rfl⟩
    rcases mem_put.mp member with ⟨rfl, old, stored, same⟩ | ⟨stored, _⟩
    · exact ⟨old, stored, same⟩
    · exact ⟨other, stored, rfl⟩
  · rintro ⟨old, stored, rfl⟩
    by_cases same : key old = key row
    · exact ⟨row, mem_put.mpr (Or.inl ⟨rfl, old, stored, same⟩), same.symm⟩
    · exact ⟨old, mem_put.mpr (Or.inr ⟨stored, same⟩), rfl⟩

end Table
end Relational
