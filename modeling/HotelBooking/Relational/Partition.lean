import HotelBooking.Relational.Table
import Mathlib.Data.List.FinRange

/-! Tables split by the home of their keys. A part holds the rows of one home, in the order of
the whole; every operation on the whole acts on the part of its key and on no other. -/
namespace Relational
variable {α β κ ι : Type} {key : α → κ} [DecidableEq ι]

/-- Lists of the rows of each home are together the whole list, up to order. -/
theorem perm_flatMap_filter (home : α → ι) (order : List ι) (distinct : order.Nodup)
    (rows : List α) (covered : ∀ row ∈ rows, home row ∈ order) :
    (order.flatMap fun i => rows.filter fun row => home row = i).Perm rows := by
  induction order generalizing rows with
  | nil =>
    cases rows with
    | nil => exact List.Perm.refl _
    | cons row rest => exact absurd (covered row List.mem_cons_self) List.not_mem_nil
  | cons i order ih =>
    obtain ⟨absent, distinct⟩ := List.nodup_cons.mp distinct
    have others : (order.flatMap fun j => rows.filter fun row => home row = j) =
        order.flatMap fun j => (rows.filter fun row => !decide (home row = i)).filter
          fun row => home row = j := by
      refine List.flatMap_congr fun j member => ?_
      rw [List.filter_filter]
      refine List.filter_congr fun row _ => ?_
      have different : j ≠ i := by
        rintro rfl
        exact absent member
      by_cases here : home row = j
      · simp [here, different]
      · simp [here]
    rw [List.flatMap_cons, others]
    have rest := ih distinct (rows.filter fun row => !decide (home row = i)) fun row member => by
      obtain ⟨stored, elsewhere⟩ := List.mem_filter.mp member
      refine (List.mem_cons.mp (covered row stored)).resolve_left ?_
      simpa using elsewhere
    exact (rest.append_left _).trans (List.filter_append_perm _ _)

namespace Table
variable {home : κ → ι} {i j : ι} {part whole : Table key} {row : α} {k : κ}

/-- The part of a table with the keys of one home. -/
def Part (home : κ → ι) (i : ι) (part whole : Table key) : Prop :=
  part.rows = whole.rows.filter fun row => home (key row) = i

theorem part_empty (home : κ → ι) (i : ι) : Part home i (empty : Table key) empty := rfl

theorem Part.mem_iff (split : Part home i part whole) :
    row ∈ part ↔ row ∈ whole ∧ home (key row) = i := by
  rw [← mem_rows, split, List.mem_filter, decide_eq_true_eq]
  exact Iff.rfl

/-- A filter that only admits rows of the home finds all of them in the part. -/
theorem Part.filter_rows (split : Part home i part whole) {admits : α → Bool}
    (here : ∀ row ∈ whole, admits row = true → home (key row) = i) :
    part.rows.filter admits = whole.rows.filter admits := by
  rw [split, List.filter_filter]
  refine List.filter_congr fun row member => ?_
  by_cases admitted : admits row = true
  · simp [admitted, here row member admitted]
  · simp [admitted]

theorem Part.find?_rows (split : Part home i part whole) {admits : α → Bool}
    (here : ∀ row ∈ whole, admits row = true → home (key row) = i) :
    part.rows.find? admits = whole.rows.find? admits := by
  rw [← List.head?_filter, split.filter_rows here, List.head?_filter]

/-- What no row of another home violates is to be checked in the part only. -/
theorem Part.forall_iff (split : Part home i part whole) {holds : α → Prop}
    (elsewhere : ∀ row ∈ whole, home (key row) ≠ i → holds row) :
    (∀ row ∈ part.rows, holds row) ↔ ∀ row ∈ whole.rows, holds row := by
  constructor
  · intro checked row member
    by_cases here : home (key row) = i
    · exact checked row (split.mem_iff.mpr ⟨member, here⟩)
    · exact elsewhere row member here
  · intro checked row member
    exact checked row (split.mem_iff.mp member).1

/-- What each part lists of its rows is together what the whole lists, up to order. -/
theorem perm_flatMap_parts {n : Nat} {home : κ → Fin n} {parts : Fin n → Table key}
    (split : ∀ i, Part home i (parts i) whole) {views : Fin n → α → Option β} {view : α → Option β}
    (same : ∀ i, ∀ row ∈ parts i, views i row = view row) :
    ((List.finRange n).flatMap fun i => (parts i).rows.filterMap (views i)).Perm
      (whole.rows.filterMap view) := by
  have lists : ((List.finRange n).flatMap fun i => (parts i).rows.filterMap (views i)) =
      ((List.finRange n).flatMap fun i =>
        whole.rows.filter fun row => home (key row) = i).filterMap view := by
    rw [List.filterMap_flatMap]
    refine List.flatMap_congr fun i _ => ?_
    rw [← split i]
    exact List.filterMap_congr (same i)
  rw [lists]
  exact (perm_flatMap_filter _ _ (List.nodup_finRange n) _ fun row _ => List.mem_finRange _).filterMap _

/-- Rows on the homes of their keys have different keys throughout. -/
theorem nodup_flatMap_homed {n : Nat} {home : κ → Fin n} {parts : Fin n → Table key}
    (homed : ∀ i, ∀ row ∈ parts i, home (key row) = i) :
    (((List.finRange n).flatMap fun i => (parts i).rows).map key).Nodup := by
  rw [List.map_flatMap, List.nodup_flatMap]
  refine ⟨fun i _ => (parts i).distinct, (List.nodup_finRange n).imp fun different => ?_⟩
  intro k left right
  obtain ⟨row, stored, rfl⟩ := List.mem_map.mp left
  obtain ⟨other, stored', same⟩ := List.mem_map.mp right
  exact different ((homed _ row stored).symm.trans (same ▸ homed _ other stored'))

variable [DecidableEq κ]

theorem Part.find? (split : Part home i part whole) (here : home k = i) :
    part.find? k = whole.find? k := by
  apply Option.ext
  intro row
  rw [find?_eq_some, find?_eq_some, split.mem_iff]
  constructor
  · rintro ⟨⟨stored, _⟩, same⟩
    exact ⟨stored, same⟩
  · rintro ⟨stored, rfl⟩
    exact ⟨⟨stored, here⟩, rfl⟩

theorem Part.insert (split : Part home i part whole) (fresh : part.find? (key row) = none)
    (fresh' : whole.find? (key row) = none) (here : home (key row) = i) :
    Part home i (part.insert row fresh) (whole.insert row fresh') := by
  rw [Part, rows_insert, rows_insert, List.filter_cons_of_pos (by simpa using here), ← split]

theorem Part.insert_elsewhere (split : Part home j part whole)
    (fresh : whole.find? (key row) = none) (elsewhere : home (key row) ≠ j) :
    Part home j part (whole.insert row fresh) := by
  rw [Part, rows_insert, List.filter_cons_of_neg (by simpa using elsewhere)]
  exact split

/-- An update keeps every key, and so every home. -/
theorem filter_put (whole : Table key) (row : α) (j : ι) :
    ((whole.put row).rows.filter fun other => home (key other) = j) =
      (whole.rows.filter fun other => home (key other) = j).map
        fun old => if key old = key row then row else old := by
  simp only [put, List.filter_map]
  congr 1
  refine List.filter_congr fun old _ => ?_
  simp only [Function.comp_apply]
  split
  · next same => rw [same]
  · rfl

theorem Part.put (split : Part home i part whole) (row : α) :
    Part home i (part.put row) (whole.put row) := by
  rw [Part, filter_put, ← split, rows_put]

theorem Part.put_elsewhere (split : Part home j part whole) (elsewhere : home (key row) ≠ j) :
    Part home j part (whole.put row) := by
  rw [Part, filter_put, ← split]
  refine ((List.map_congr_left fun old member => ?_).trans (List.map_id _)).symm
  rw [id_eq, if_neg]
  intro same
  exact elsewhere (same ▸ (split.mem_iff.mp member).2)

theorem Part.erase (split : Part home i part whole) (k : κ) :
    Part home i (part.erase k) (whole.erase k) := by
  rw [Part, rows_erase, rows_erase, split, List.filter_filter, List.filter_filter]
  exact List.filter_congr fun row _ => Bool.and_comm _ _

theorem Part.erase_elsewhere (split : Part home j part whole) (elsewhere : home k ≠ j) :
    Part home j part (whole.erase k) := by
  rw [Part, rows_erase, split, List.filter_filter]
  refine List.filter_congr fun row _ => ?_
  by_cases here : home (key row) = j
  · have different : key row ≠ k := by
      rintro rfl
      exact elsewhere here
    simp [here, different]
  · simp [here]

end Table
end Relational
