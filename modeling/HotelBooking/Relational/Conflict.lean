import HotelBooking.Relational.Table

/-! Tables whose rows must not conflict in pairs, as under an exclusion constraint.
Whether a write keeps the table free of conflicts depends on the written row only. -/
namespace Relational.Table
variable {α κ : Type} {key : α → κ} {conflict : α → α → Prop}

def ConflictFree (conflict : α → α → Prop) (table : Table key) : Prop :=
  ∀ first ∈ table, ∀ second ∈ table, first ≠ second → ¬ conflict first second

/-- The row conflicts with no row under another key. -/
def Admits (conflict : α → α → Prop) (table : Table key) (row : α) : Prop :=
  ∀ other ∈ table, key other ≠ key row → ¬ conflict other row

variable {table : Table key} {row old : α}

/-- A row that takes the place of a stored one, and conflicts with no more than it did. -/
theorem ConflictFree.admits (free : table.ConflictFree conflict) (stored : old ∈ table)
    (same : key old = key row) (fewer : ∀ other, conflict other row → conflict other old) :
    table.Admits conflict row := by
  intro other member different clash
  refine free other member old stored ?_ (fewer other clash)
  rintro rfl
  exact different same

section Writes
variable [DecidableEq κ]

theorem conflictFree_insert (symmetric : ∀ first second, conflict first second → conflict second first)
    (fresh : table.find? (key row) = none) (free : table.ConflictFree conflict) :
    (table.insert row fresh).ConflictFree conflict ↔ table.Admits conflict row := by
  constructor
  · intro held other member different
    refine held other ((mem_insert fresh).mpr (Or.inr member)) row
      ((mem_insert fresh).mpr (Or.inl rfl)) ?_
    rintro rfl
    exact different rfl
  · intro admits first left second right different
    have absent := find?_eq_none.mp fresh
    rcases (mem_insert fresh).mp left with rfl | oldLeft <;>
      rcases (mem_insert fresh).mp right with rfl | oldRight
    · exact absurd rfl different
    · exact fun clash => admits second oldRight (absent second oldRight) (symmetric _ _ clash)
    · exact admits first oldLeft (absent first oldLeft)
    · exact free first oldLeft second oldRight different

theorem conflictFree_put (symmetric : ∀ first second, conflict first second → conflict second first)
    (found : table.find? (key row) = some old) (free : table.ConflictFree conflict) :
    (table.put row).ConflictFree conflict ↔ table.Admits conflict row := by
  constructor
  · intro held other member different
    refine held other ((mem_put_of_find found).mpr (Or.inr ⟨member, different⟩)) row
      ((mem_put_of_find found).mpr (Or.inl rfl)) ?_
    rintro rfl
    exact different rfl
  · intro admits first left second right different
    rcases (mem_put_of_find found).mp left with rfl | ⟨oldLeft, leftKey⟩ <;>
      rcases (mem_put_of_find found).mp right with rfl | ⟨oldRight, rightKey⟩
    · exact absurd rfl different
    · exact fun clash => admits second oldRight rightKey (symmetric _ _ clash)
    · exact admits first oldLeft leftKey
    · exact free first oldLeft second oldRight different

theorem conflictFree_erase {k : κ} (free : table.ConflictFree conflict) :
    (table.erase k).ConflictFree conflict := fun first left second right =>
  free first (mem_erase.mp left).1 second (mem_erase.mp right).1

end Writes
end Relational.Table
