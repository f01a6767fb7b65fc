import Mathlib.Algebra.BigOperators.Group.List.Basic
import Mathlib.Data.List.Dedup
import Mathlib.Data.List.Induction
import Mathlib.Tactic.Common

/-! Outer joins, groups and sums under keys. Rows kept in several parts join and group as the
rows of all parts do, when what matches lies in one part and the aggregate is additive. -/
namespace Relational
variable {α β κ ι M : Type}

/-- `LEFT JOIN`: a row without a match is kept, with no partner. -/
def leftJoin (left : List α) (right : List β) (on : α → β → Bool) : List (α × Option β) :=
  left.flatMap fun row =>
    match right.filter (on row) with
    | [] => [(row, none)]
    | matched => matched.map fun partner => (row, some partner)

theorem mem_leftJoin {left : List α} {right : List β} {on : α → β → Bool} {row : α}
    {partner : Option β} (member : (row, partner) ∈ leftJoin left right on) :
    row ∈ left ∧ ∀ other, partner = some other → other ∈ right ∧ on row other = true := by
  obtain ⟨origin, stored, listed⟩ := List.mem_flatMap.mp member
  split at listed
  · obtain ⟨rfl, rfl⟩ := Prod.mk.inj (List.mem_singleton.mp listed)
    exact ⟨stored, fun other same => by cases same⟩
  · obtain ⟨other, matched, same⟩ := List.mem_map.mp listed
    obtain ⟨rfl, rfl⟩ := Prod.mk.inj same
    refine ⟨stored, fun found same => ?_⟩
    obtain rfl := Option.some.inj same
    exact List.mem_filter.mp matched

/-- The only part that lists anything is the whole. -/
theorem flatMap_only {f : ι → List α} {order : List ι} {i : ι} (distinct : order.Nodup)
    (listed : i ∈ order) (others : ∀ j, j ≠ i → f j = []) : order.flatMap f = f i := by
  induction order with
  | nil => exact absurd listed List.not_mem_nil
  | cons j rest ih =>
    obtain ⟨absent, distinct⟩ := List.nodup_cons.mp distinct
    rw [List.flatMap_cons]
    rcases List.mem_cons.mp listed with rfl | later
    · have nothing : rest.flatMap f = [] := by
        rw [List.flatMap_eq_nil_iff]
        intro k member
        apply others
        rintro rfl
        exact absent member
      rw [nothing, List.append_nil]
    · have different : j ≠ i := by
        rintro rfl
        exact absent later
      rw [others j different, List.nil_append, ih distinct later]

/-- A row is joined within its part when its matches lie there. -/
theorem leftJoin_flatMap {left : ι → List α} {right : ι → List β} {on : α → β → Bool}
    {order : List ι} (distinct : order.Nodup)
    (together : ∀ i j, ∀ row ∈ left i, ∀ other ∈ right j, on row other = true → i = j) :
    leftJoin (order.flatMap left) (order.flatMap right) on =
      order.flatMap fun i => leftJoin (left i) (right i) on := by
  unfold leftJoin
  rw [List.flatMap_assoc]
  refine List.flatMap_congr fun i listed => List.flatMap_congr fun row stored => ?_
  have matched : (order.flatMap right).filter (on row) = (right i).filter (on row) := by
    rw [List.filter_flatMap, flatMap_only distinct listed]
    intro j different
    rw [List.filter_eq_nil_iff]
    intro other member joined
    exact different (together i j row stored other member joined).symm
  rw [matched]

section LeftJoin
variable {left : List α} {right : List β} {on : α → β → Bool}

@[simp] theorem leftJoin_nil : leftJoin [] right on = [] := rfl

theorem leftJoin_append (first second : List α) : leftJoin (first ++ second) right on =
    leftJoin first right on ++ leftJoin second right on := List.flatMap_append

theorem leftJoin_cons (row : α) (left : List α) : leftJoin (row :: left) right on =
    leftJoin [row] right on ++ leftJoin left right on := leftJoin_append [row] left

/-- A condition on the left rows may be checked before the join. -/
theorem filter_leftJoin (p : α → Bool) :
    (leftJoin left right on).filter (fun row => p row.1) = leftJoin (left.filter p) right on := by
  induction left with
  | nil => rfl
  | cons row rest ih =>
    rw [leftJoin_cons, List.filter_append, ih]
    have same : ∀ joined ∈ leftJoin [row] right on, joined.1 = row := fun joined member =>
      List.mem_singleton.mp (mem_leftJoin member).1
    by_cases holds : p row = true
    · rw [List.filter_cons_of_pos holds, leftJoin_cons row (List.filter p rest),
        List.filter_eq_self.mpr]
      intro joined member
      rw [same joined member, holds]
    · rw [List.filter_cons_of_neg holds, List.filter_eq_nil_iff.mpr, List.nil_append]
      intro joined member
      rwa [same joined member]

/-- Every left row is in the join. -/
theorem exists_leftJoin {row : α} (listed : row ∈ left) :
    ∃ partner, (row, partner) ∈ leftJoin left right on := by
  cases matched : right.filter (on row) with
  | nil =>
    refine ⟨none, List.mem_flatMap.mpr ⟨row, listed, ?_⟩⟩
    rw [matched]
    exact List.mem_singleton.mpr rfl
  | cons partner rest =>
    refine ⟨some partner, List.mem_flatMap.mpr ⟨row, listed, ?_⟩⟩
    rw [matched]
    exact List.mem_map.mpr ⟨partner, List.mem_cons_self, rfl⟩

theorem matched_leftJoin {row : α} {partner : β} (listed : row ∈ left) (other : partner ∈ right)
    (joined : on row partner = true) : (row, some partner) ∈ leftJoin left right on := by
  refine List.mem_flatMap.mpr ⟨row, listed, ?_⟩
  have found : partner ∈ right.filter (on row) := List.mem_filter.mpr ⟨other, joined⟩
  cases matched : right.filter (on row) with
  | nil =>
    rw [matched] at found
    cases found
  | cons first rest => exact List.mem_map.mpr ⟨partner, matched ▸ found, rfl⟩

/-- What the partners list, a row without a partner lists nothing. -/
theorem flatMap_leftJoin (f : β → List γ) :
    ((leftJoin left right on).flatMap fun row => row.2.elim [] f) =
      left.flatMap fun row => (right.filter (on row)).flatMap f := by
  rw [leftJoin, List.flatMap_assoc]
  refine List.flatMap_congr fun row _ => ?_
  cases right.filter (on row) with
  | nil => rfl
  | cons partner rest => rw [List.flatMap_map]; rfl

theorem partners_leftJoin : (leftJoin left right on).filterMap Prod.snd =
    left.flatMap fun row => right.filter (on row) := by
  rw [leftJoin, List.filterMap_flatMap]
  refine List.flatMap_congr fun row _ => ?_
  cases right.filter (on row) with
  | nil => rfl
  | cons partner rest =>
    rw [List.filterMap_map]
    exact List.filterMap_some

end LeftJoin

variable [DecidableEq κ]

theorem find?_of_mem {key : α → κ} {rows : List α} (distinct : (rows.map key).Nodup) {row : α}
    (member : row ∈ rows) : rows.find? (fun other => key other = key row) = some row := by
  cases found : rows.find? fun other => key other = key row with
  | none => exact absurd (decide_eq_true rfl) (List.find?_eq_none.mp found row member)
  | some other =>
    have same : key other = key row := by simpa using List.find?_some found
    rw [List.inj_on_of_nodup_map distinct (List.mem_of_find?_eq_some found) member same]

/-- The rows of a key that no two rows share. -/
theorem filter_of_find? {key : α → κ} {rows : List α} (distinct : (rows.map key).Nodup) {k : κ}
    {row : α} (found : rows.find? (fun other => key other = k) = some row) :
    rows.filter (fun other => key other = k) = [row] := by
  induction rows with
  | nil => cases found
  | cons first rest ih =>
    obtain ⟨absent, distinct⟩ := List.nodup_cons.mp distinct
    by_cases here : key first = k
    · rw [List.find?_cons_of_pos (by simpa using here)] at found
      obtain rfl := Option.some.inj found
      rw [List.filter_cons_of_pos (by simpa using here), List.filter_eq_nil_iff.mpr]
      intro other member same
      refine absent (List.mem_map.mpr ⟨other, member, ?_⟩)
      exact (of_decide_eq_true same).trans here.symm
    · rw [List.find?_cons_of_neg (by simpa using here)] at found
      rw [List.filter_cons_of_neg (by simpa using here), ih distinct found]

/-- `GROUP BY`: each key once, with the aggregate of its rows. -/
def groupBy (key : α → κ) (aggregate : List α → M) (rows : List α) : List (κ × M) :=
  (rows.map key).dedup.map fun k => (k, aggregate (rows.filter fun row => key row = k))

section GroupBy
variable {key : α → κ} {aggregate : List α → M} {rows : List α}

theorem keys_groupBy : (groupBy key aggregate rows).map Prod.fst = (rows.map key).dedup := by
  rw [groupBy, List.map_map]
  exact List.map_id _

theorem nodup_groupBy : (groupBy key aggregate rows).Nodup := by
  apply List.Nodup.of_map Prod.fst
  rw [keys_groupBy]
  exact List.nodup_dedup _

theorem mem_groupBy {k : κ} {value : M} :
    (k, value) ∈ groupBy key aggregate rows ↔
      k ∈ rows.map key ∧ value = aggregate (rows.filter fun row => key row = k) := by
  simp only [groupBy, List.mem_map (f := fun k => (k, _)), List.mem_dedup, Prod.mk.injEq]
  constructor
  · rintro ⟨_, listed, rfl, rfl⟩
    exact ⟨listed, rfl⟩
  · rintro ⟨listed, rfl⟩
    exact ⟨k, listed, rfl, rfl⟩

/-- Rows of one key are one group. -/
theorem groupBy_single {k : κ} (nonempty : rows ≠ []) (same : ∀ row ∈ rows, key row = k) :
    groupBy key aggregate rows = [(k, aggregate rows)] := by
  have keys : (rows.map key).dedup = [k] := by
    have length : rows.length ≠ 0 := fun empty => nonempty (List.length_eq_zero_iff.mp empty)
    rw [List.map_eq_replicate_iff.mpr same, List.replicate_dedup length]
  have all : rows.filter (fun row => key row = k) = rows :=
    List.filter_eq_self.mpr fun row member => by simp [same row member]
  rw [groupBy, keys, List.map_singleton, all]

end GroupBy

/-- `Map.set`: a known key keeps its place, a new one comes last. -/
def assign : List (κ × M) → κ → M → List (κ × M)
  | [], k, value => [(k, value)]
  | entry :: rest, k, value =>
    if entry.1 = k then (k, value) :: rest else entry :: assign rest k value

theorem mem_keys_assign {entries : List (κ × M)} {k other : κ} {value : M} :
    other ∈ (assign entries k value).map Prod.fst ↔ other = k ∨ other ∈ entries.map Prod.fst := by
  induction entries with
  | nil => simp [assign]
  | cons entry rest ih =>
    unfold assign
    split
    · next same => simp [← same]
    · simp only [List.map_cons, List.mem_cons, ih]
      exact or_left_comm

theorem nodup_assign {entries : List (κ × M)} {k : κ} {value : M}
    (distinct : (entries.map Prod.fst).Nodup) : ((assign entries k value).map Prod.fst).Nodup := by
  induction entries with
  | nil => exact List.nodup_singleton k
  | cons entry rest ih =>
    unfold assign
    split
    · next same =>
      subst same
      exact distinct
    · next different =>
      obtain ⟨absent, distinct⟩ := List.nodup_cons.mp distinct
      rw [List.map_cons, List.nodup_cons, mem_keys_assign]
      refine ⟨?_, ih distinct⟩
      rintro (same | listed)
      · exact different same
      · exact absent listed

theorem lookup_entry (entry : κ × M) (rest : List (κ × M)) (k : κ) :
    (entry :: rest).lookup k = if k = entry.1 then some entry.2 else rest.lookup k := by
  rw [List.lookup_cons]
  by_cases same : k = entry.1
  · rw [if_pos same, same, beq_self_eq_true]
  · rw [if_neg same, beq_false_of_ne same]

theorem lookup_assign {entries : List (κ × M)} {k other : κ} {value : M} :
    (assign entries k value).lookup other =
      if other = k then some value else entries.lookup other := by
  induction entries with
  | nil => simp [assign, lookup_entry]
  | cons entry rest ih =>
    unfold assign
    split
    · next known =>
      subst known
      by_cases same : other = entry.1 <;> simp [lookup_entry, same]
    · next different =>
      by_cases same : other = entry.1
      · simp [lookup_entry, same, different]
      · simp [lookup_entry, same, ih]

theorem mem_iff_lookup {entries : List (κ × M)} {k : κ} {value : M}
    (distinct : (entries.map Prod.fst).Nodup) :
    (k, value) ∈ entries ↔ entries.lookup k = some value := by
  induction entries with
  | nil => simp
  | cons entry rest ih =>
    obtain ⟨absent, distinct⟩ := List.nodup_cons.mp distinct
    by_cases same : k = entry.1
    · subst same
      have other : (entry.1, value) ∉ rest := fun listed =>
        absent (List.mem_map.mpr ⟨_, listed, rfl⟩)
      simp [lookup_entry, Prod.ext_iff, other, eq_comm]
    · have other : (k, value) ≠ entry := by
        rintro rfl
        exact same rfl
      simp [lookup_entry, same, other, ih distinct]

variable [AddCommMonoid M]

/-- A value is added to what its key has, or to zero. -/
def tally (entries : List (κ × M)) (row : κ × M) : List (κ × M) :=
  assign entries row.1 ((entries.lookup row.1).getD 0 + row.2)

def tallies (rows : List (κ × M)) : List (κ × M) := rows.foldl tally []

theorem tallies_concat (rows : List (κ × M)) (row : κ × M) :
    tallies (rows ++ [row]) = tally (tallies rows) row :=
  List.foldl_concat _ _ _ _

theorem nodup_tallies (rows : List (κ × M)) : ((tallies rows).map Prod.fst).Nodup := by
  induction rows using List.reverseRecOn with
  | nil => exact List.nodup_nil
  | append_singleton rows row ih =>
    rw [tallies_concat]
    exact nodup_assign ih

/-- The values under a key are summed. -/
theorem lookup_tallies (rows : List (κ × M)) (k : κ) :
    (tallies rows).lookup k = if k ∈ rows.map Prod.fst then
      some ((rows.filter fun row => row.1 = k).map Prod.snd).sum else none := by
  induction rows using List.reverseRecOn with
  | nil => rfl
  | append_singleton rows row ih =>
    rw [tallies_concat, tally, lookup_assign]
    by_cases same : k = row.1
    · subst same
      have before : ((tallies rows).lookup row.1).getD 0 =
          ((rows.filter fun other => other.1 = row.1).map Prod.snd).sum := by
        rw [ih]
        split
        · rfl
        · next absent =>
          have nothing : (rows.filter fun other => other.1 = row.1) = [] := by
            rw [List.filter_eq_nil_iff]
            intro other member known
            exact absent (List.mem_map.mpr ⟨other, member, of_decide_eq_true known⟩)
          rw [nothing]
          rfl
      simp [before]
    · have other : row.1 ≠ k := fun equal => same equal.symm
      simp [same, other, ih, -List.mem_map]

theorem sum_groupBy {key : α → κ} {aggregate : List α → M} {rows : List α} (nothing : aggregate [] = 0)
    (k : κ) : (((groupBy key aggregate rows).filter fun row => row.1 = k).map Prod.snd).sum =
      aggregate (rows.filter fun row => key row = k) := by
  have listed : ((groupBy key aggregate rows).filter fun row => row.1 = k) =
      ((rows.map key).dedup.filter fun other => other = k).map fun k =>
        (k, aggregate (rows.filter fun row => key row = k)) := by
    rw [groupBy, List.filter_map]
    rfl
  rw [listed, List.filter_eq, List.count_dedup, List.map_map]
  split
  · exact List.sum_singleton
  · next absent =>
    have none_left : (rows.filter fun row => key row = k) = [] := by
      rw [List.filter_eq_nil_iff]
      intro row member known
      exact absent (List.mem_map.mpr ⟨row, member, of_decide_eq_true known⟩)
    rw [none_left, nothing]
    rfl

/-- Sums of the aggregates of the parts are the aggregates of the whole. -/
theorem tallies_groups {key : α → κ} {aggregate : List α → M} {order : List ι} {parts : ι → List α}
    {answers : ι → List (κ × M)} (nothing : aggregate [] = 0)
    (additive : ∀ k, aggregate ((order.flatMap parts).filter fun row => key row = k) =
      (order.map fun i => aggregate ((parts i).filter fun row => key row = k)).sum)
    (grouped : ∀ i, (answers i).Perm (groupBy key aggregate (parts i))) :
    (tallies (order.flatMap answers)).Perm (groupBy key aggregate (order.flatMap parts)) := by
  have keys (i : ι) : ((answers i).map Prod.fst).Perm ((parts i).map key).dedup := by
    have listed := (grouped i).map Prod.fst
    rwa [keys_groupBy] at listed
  have known (k : κ) : k ∈ (order.flatMap answers).map Prod.fst ↔
      k ∈ (order.flatMap parts).map key := by
    rw [List.map_flatMap, List.map_flatMap, List.mem_flatMap, List.mem_flatMap]
    refine exists_congr fun i => and_congr_right fun _ => ?_
    rw [(keys i).mem_iff, List.mem_dedup]
  have share (i : ι) (k : κ) : (((answers i).filter fun row => row.1 = k).map Prod.snd).sum =
      aggregate ((parts i).filter fun row => key row = k) := by
    rw [(((grouped i).filter _).map _).sum_eq]
    exact sum_groupBy nothing k
  have sums (k : κ) : (((order.flatMap answers).filter fun row => row.1 = k).map Prod.snd).sum =
      aggregate ((order.flatMap parts).filter fun row => key row = k) := by
    rw [additive, List.filter_flatMap, List.map_flatMap, List.flatMap_def, List.sum_flatten,
      List.map_map]
    congr 1
    exact List.map_congr_left fun i _ => share i k
  refine (List.perm_ext_iff_of_nodup (nodup_tallies _).of_map nodup_groupBy).mpr ?_
  rintro ⟨k, value⟩
  rw [mem_iff_lookup (nodup_tallies _), lookup_tallies, mem_groupBy, sums]
  by_cases listed : k ∈ (order.flatMap answers).map Prod.fst
  · rw [if_pos listed, Option.some_inj, eq_comm]
    exact (and_iff_right ((known k).mp listed)).symm
  · rw [if_neg listed]
    constructor
    · rintro ⟨⟩
    · rintro ⟨found, _⟩
      exact absurd ((known k).mpr found) listed

end Relational
