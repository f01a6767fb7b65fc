import Mathlib.Data.List.Sort
import Mathlib.Tactic.Common

/-! Stable sorting and binary search. A search is for the first element that does not lie
before the key; on a list sorted in the order of the search it finds what a linear search
finds. -/
namespace Ordered
variable {α : Type}

/-- A stable sort keeps a relation of the input among the elements that the order ties. -/
theorem pairwise_mergeSort_stable {le : α → α → Bool} {related : α → α → Prop} {rows : List α}
    (trans : ∀ a b c, le a b = true → le b c = true → le a c = true)
    (total : ∀ a b, (le a b || le b a) = true) (input : rows.Pairwise related)
    (reflexive : ∀ a, related a a) :
    (rows.mergeSort le).Pairwise fun a b => le a b = true ∧ (le b a = true → related a b) := by
  rw [← List.mergeSort_zipIdx, List.pairwise_map]
  have sorted := List.pairwise_mergeSort (List.zipIdxLE_trans trans) (List.zipIdxLE_total total)
    rows.zipIdx
  refine sorted.imp_of_mem fun {first second} left right ordered => ?_
  have stored := List.mem_zipIdx' (List.mem_mergeSort.mp left)
  have stored' := List.mem_zipIdx' (List.mem_mergeSort.mp right)
  simp only [List.zipIdxLE] at ordered
  split at ordered
  · next before =>
    refine ⟨before, fun back => ?_⟩
    simp only [back, if_true, decide_eq_true_eq] at ordered
    rcases Nat.lt_or_eq_of_le ordered with earlier | same
    · rw [stored.2, stored'.2]
      exact List.pairwise_iff_getElem.mp input _ _ stored.1 stored'.1 earlier
    · have tied : first.1 = second.1 := by
        rw [stored.2, stored'.2]
        simp only [same]
      rw [tied]
      exact reflexive _
  · cases ordered

/-- A stable sort puts the elements in order and keeps the order of those that are tied. -/
structure StableSort (le : α → α → Bool) (input output : List α) : Prop where
  perm : output.Perm input
  sorted : output.Pairwise fun a b => le a b = true
  stable : ∀ a, output.filter (fun b => le a b && le b a) = input.filter fun b => le a b && le b a

theorem mergeSort_stableSort {le : α → α → Bool}
    (trans : ∀ a b c, le a b = true → le b c = true → le a c = true)
    (total : ∀ a b, (le a b || le b a) = true) (input : List α) :
    StableSort le input (input.mergeSort le) := by
  constructor
  · exact List.mergeSort_perm input le
  · exact List.pairwise_mergeSort trans total input
  · intro a
    have tied : (input.filter fun b => le a b && le b a).Pairwise fun x y => le x y = true := by
      rw [List.pairwise_filter]
      refine List.pairwise_of_forall fun x y left right => ?_
      rw [Bool.and_eq_true] at left right
      exact trans x a y left.2 right.1
    have kept := (List.sublist_mergeSort trans total tied List.filter_sublist).filter
      fun b => le a b && le b a
    rw [List.filter_filter, List.filter_congr fun b _ => Bool.and_self _] at kept
    exact (kept.eq_of_length ((List.mergeSort_perm input le).filter _).length_eq.symm).symm

/-- The loop of a binary search between `lo` and `hi`. -/
def bisect (before : α → Bool) (rows : List α) (lo hi : Nat) (bound : hi ≤ rows.length) : Nat :=
  if more : lo < hi then
    have inside : (lo + hi) / 2 < rows.length := by omega
    if before rows[(lo + hi) / 2] then bisect before rows ((lo + hi) / 2 + 1) hi bound
    else bisect before rows lo ((lo + hi) / 2) (by omega)
  else lo
termination_by hi - lo

section Bisect
variable {before : α → Bool} {rows : List α}

/-- What lies before the key comes first. -/
def Parted (before : α → Bool) (rows : List α) : Prop :=
  rows.Pairwise fun first second => before second = true → before first = true

/-- Everything below `cut` lies before the key and nothing from `cut` on does. -/
structure Cuts (before : α → Bool) (rows : List α) (cut : Nat) : Prop where
  bound : cut ≤ rows.length
  low : ∀ i (inside : i < rows.length), i < cut → before rows[i] = true
  high : ∀ i (inside : i < rows.length), cut ≤ i → before rows[i] = false

theorem Parted.low (parted : Parted before rows) {i j : Nat} (bound : j < rows.length)
    (order : i ≤ j) (below : before rows[j] = true) : before rows[i] = true := by
  rcases Nat.lt_or_eq_of_le order with earlier | rfl
  · exact List.pairwise_iff_getElem.mp parted i j _ bound earlier below
  · exact below

theorem bisect_cuts (parted : Parted before rows) {lo hi : Nat} (bound : hi ≤ rows.length)
    (order : lo ≤ hi) (low : ∀ i (inside : i < rows.length), i < lo → before rows[i] = true)
    (high : ∀ i (inside : i < rows.length), hi ≤ i → before rows[i] = false) :
    Cuts before rows (bisect before rows lo hi bound) := by
  induction lo, hi, bound using bisect.induct before rows with
  | case1 lo hi bound more inside below ih =>
    rw [bisect, dif_pos more, if_pos below]
    refine ih (by omega) (fun i stored early => ?_) high
    exact parted.low inside (by omega) below
  | case2 lo hi bound more inside above ih =>
    rw [bisect, dif_pos more, if_neg above]
    refine ih (by omega) low fun i stored late => ?_
    rw [← Bool.not_eq_true]
    exact fun below => above (parted.low stored late below)
  | case3 lo hi bound done =>
    rw [bisect, dif_neg done]
    exact ⟨by omega, low, fun i stored late => high i stored (by omega)⟩

/-- What the search finds is what a search from the start of the list finds. -/
theorem Cuts.getElem? {cut : Nat} (cuts : Cuts before rows cut) :
    rows[cut]? = rows.find? fun row => !before row := by
  symm
  by_cases inside : cut < rows.length
  · rw [List.getElem?_eq_getElem inside, List.find?_eq_some_iff_getElem]
    refine ⟨by rw [cuts.high cut inside le_rfl]; rfl, cut, inside, rfl, fun j early => ?_⟩
    rw [cuts.low j (by omega) early]
    rfl
  · rw [List.getElem?_eq_none (Nat.le_of_not_lt inside), List.find?_eq_none]
    intro row member
    obtain ⟨i, stored, rfl⟩ := List.getElem_of_mem member
    rw [cuts.low i stored (by omega)]
    decide

/-- The binary search over a whole parted list. -/
theorem cuts_bisect (parted : Parted before rows) :
    Cuts before rows (bisect before rows 0 rows.length le_rfl) := by
  refine bisect_cuts parted le_rfl (Nat.zero_le _) ?_ ?_
  · intro i inside early
    omega
  · intro i inside late
    omega

end Bisect

/-- The first match in an ordered list is below every other match. -/
theorem find?_least {related : α → α → Prop} {rows : List α} {matches_ : α → Bool} {first : α}
    (ordered : rows.Pairwise related) (reflexive : ∀ a, related a a)
    (found : rows.find? matches_ = some first) :
    ∀ row ∈ rows, matches_ row = true → related first row := by
  obtain ⟨matched, i, inside, rfl, earlier⟩ := List.find?_eq_some_iff_getElem.mp found
  intro row member matching
  obtain ⟨j, stored, rfl⟩ := List.getElem_of_mem member
  rcases Nat.lt_trichotomy i j with before | rfl | after
  · exact List.pairwise_iff_getElem.mp ordered i j inside stored before
  · exact reflexive _
  · have unmatched := earlier j after
    rw [matching] at unmatched
    cases unmatched

end Ordered
