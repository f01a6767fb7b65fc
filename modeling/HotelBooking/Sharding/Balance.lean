import HotelBooking.Sharding.Rebalance

/-! `rebalanceBuckets` on any map, also one that SHARD_BUCKET_MAP spells out: its loops run to
their end, and it moves the fewest buckets unless its fixed quotas give the remainder of 64 to
other shards than those that own more already. -/
namespace HotelBooking
open Finset

namespace Rebalancing

/-- The `while` loop of one shard. There is no result when a round begins without `fuel`, or pops
from an empty stack. -/
def fillWhile (count shard : Nat) : Nat → Rebalancing → Option Rebalancing
  | fuel, state =>
    if state.owned shard < quota count shard then
      match fuel, state.spare with
      | fuel + 1, bucket :: rest =>
        fillWhile count shard fuel {
          next := Function.update state.next bucket shard
          owned := Function.update state.owned shard (state.owned shard + 1)
          spare := rest }
      | _, _ => none
    else some state

end Rebalancing

/-- The arrays of one call: the argument and its copy. -/
structure RebalanceArrays where
  map : BucketMap
  work : Rebalancing

/-- `rebalanceBuckets` as it runs on its arrays, with `fuel` rounds for each `while` loop. -/
def rebalanceRun (fuel : Nat) (map : BucketMap) (count : Nat) : Option RebalanceArrays :=
  let copied : RebalanceArrays := ⟨map, ⟨map, ownedBy map, []⟩⟩
  let shed := (List.finRange BUCKETS).reverse.foldl
    (fun arrays bucket => { arrays with work := arrays.work.shed count bucket }) copied
  (List.range count).foldlM (fun arrays shard => do
    return { arrays with work := ← arrays.work.fillWhile count shard fuel }) shed

namespace Rebalancing
variable {before count : Nat} {start state : Rebalancing}

/-- A shard's loop makes as many rounds as buckets are missing. -/
theorem Filling.fillWhile (filling : Filling before count start state) {shard : Nat}
    (missing fuel : Nat) (low : shard < count) (lacks : state.owned shard + missing = quota count shard)
    (enough : missing ≤ fuel) :
    state.fillWhile count shard fuel = some (state.fill shard missing) := by
  induction missing generalizing state fuel with
  | zero =>
    unfold Rebalancing.fillWhile
    rw [if_neg (by omega)]
    rfl
  | succ missing ih =>
    obtain ⟨fuel, rfl⟩ : ∃ left, fuel = left + 1 := ⟨fuel - 1, by omega⟩
    obtain ⟨given, owned⟩ := filling.give low (by omega)
    have later := ih given fuel (by rw [owned, Function.update_self]; omega) (Nat.le_of_succ_le_succ enough)
    have stacked := filling.spare_ne_nil low (by omega)
    unfold Rebalancing.fillWhile
    rw [if_pos (by omega)]
    cases spare : state.spare with
    | nil => exact absurd spare stacked
    | cons bucket rest =>
      rw [Rebalancing.fill]
      simp only [Rebalancing.give, spare] at later ⊢
      exact later

/-- The loop over the shards runs to its end and leaves what `rebalanceBuckets` leaves. -/
theorem Filling.foldlM {fuel passed : Nat} (filling : Filling before count start state)
    (map : BucketMap) (bound : passed ≤ count)
    (enough : ∀ shard < count, quota count shard ≤ fuel) :
    (List.range passed).foldlM (fun (arrays : RebalanceArrays) shard => do
      return { arrays with work := ← arrays.work.fillWhile count shard fuel }) ⟨map, state⟩ =
    some ⟨map, (List.range passed).foldl (fun state shard =>
      state.fill shard (quota count shard - state.owned shard)) state⟩ := by
  induction passed with
  | zero => rfl
  | succ passed ih =>
    have low : passed < count := bound
    obtain ⟨filled, _⟩ := filling.foldl (Nat.le_of_lt low)
    rw [List.range_succ, List.foldlM_append, ih (Nat.le_of_lt low), List.foldl_append]
    generalize (List.range passed).foldl (fun state shard =>
      state.fill shard (quota count shard - state.owned shard)) state = now at filled ⊢
    have within := filled.within passed low
    have quotas := enough passed low
    have round := filled.fillWhile (quota count passed - now.owned passed) fuel low (by omega)
      (by omega)
    simp [round]

end Rebalancing

theorem quota_le {count shard : Nat} (low : shard < count) : quota count shard ≤ BUCKETS := by
  rw [← sum_quota (Nat.zero_lt_of_lt low)]
  exact single_le_sum (fun _ _ => Nat.zero_le _) (mem_range.mpr low)

/-- The first loop writes to the copy only. -/
theorem foldl_shed (map : BucketMap) (count : Nat) (order : List (Fin BUCKETS)) (work : Rebalancing) :
    order.foldl (fun arrays bucket => { arrays with work := arrays.work.shed count bucket })
      (⟨map, work⟩ : RebalanceArrays) = ⟨map, order.foldl (Rebalancing.shed count) work⟩ := by
  induction order generalizing work with
  | nil => rfl
  | cons bucket rest ih => exact ih _

/-- The loops end, no `pop` finds the stack empty, the argument stays as it was, and the result
gives each shard its quota while the rest stays in place. -/
theorem rebalanceRun_rebalanced {count fuel : Nat} {map : BucketMap} (positive : 1 ≤ count)
    (bound : ∀ bucket, map bucket < count) (enough : BUCKETS ≤ fuel) :
    ∃ work, rebalanceRun fuel map count = some ⟨map, work⟩ ∧
      work.next = rebalanceBuckets map count ∧ Rebalanced count map work.next := by
  obtain ⟨seen, shedding, all⟩ := Rebalancing.shed_all bound
  have rebalanced := rebalanceBuckets_rebalanced positive bound
  have ran := (shedding.filling all).foldlM map le_rfl fun shard low => (quota_le low).trans enough
  refine ⟨_, ?_, rfl, rebalanced⟩
  unfold rebalanceRun
  dsimp only
  rw [foldl_shed]
  exact ran

/-- Two shards, one of them with 40 buckets, and a third. -/
def uneven : BucketMap := fun bucket => if bucket.val < 40 then 0 else 1

theorem rebalanceRun_rebalanced_uneven : ∃ work, rebalanceRun 64 uneven 3 = some ⟨uneven, work⟩ ∧
    work.next = rebalanceBuckets uneven 3 ∧ Rebalanced 3 uneven work.next :=
  rebalanceRun_rebalanced (by decide) (by decide) (by decide)

/-- All buckets are on the shards, and no shard has two more than another. -/
structure Balanced (count : Nat) (map : BucketMap) : Prop where
  bound : ∀ bucket, map bucket < count
  level : ∀ first < count, ∀ second < count, ownedBy map first ≤ ownedBy map second + 1

/-- A balanced map gives each shard the same share, and one bucket more to as many shards as
the division leaves over. -/
theorem Balanced.owned {count : Nat} {map : BucketMap} (balanced : Balanced count map) {shard : Nat}
    (low : shard < count) :
    BUCKETS / count ≤ ownedBy map shard ∧ ownedBy map shard ≤ BUCKETS / count + 1 := by
  have total := sum_ownedBy balanced.bound
  have division := Nat.div_add_mod BUCKETS count
  have remainder := Nat.mod_lt BUCKETS (Nat.zero_lt_of_lt low)
  constructor
  · by_contra less
    have fewer : ∑ other ∈ range count, ownedBy map other < ∑ _other ∈ range count, BUCKETS / count := by
      refine sum_lt_sum (fun other member => ?_) ⟨shard, mem_range.mpr low, Nat.lt_of_not_le less⟩
      have near := balanced.level other (mem_range.mp member) shard low
      omega
    rw [total, sum_const, card_range, smul_eq_mul] at fewer
    omega
  · by_contra more
    have exceeds : ∑ _other ∈ range count, (BUCKETS / count + 1) <
        ∑ other ∈ range count, ownedBy map other := by
      refine sum_lt_sum (fun other member => ?_) ⟨shard, mem_range.mpr low, Nat.lt_of_not_le more⟩
      have near := balanced.level shard low other (mem_range.mp member)
      omega
    rw [total, sum_const, card_range, smul_eq_mul, Nat.mul_succ] at exceeds
    omega

theorem QuotaExact.balanced {count : Nat} {map : BucketMap} (exact_ : QuotaExact count map) :
    Balanced count map where
  bound := exact_.bound
  level first low second within := by
    rw [exact_.owned first low, exact_.owned second within, quota, quota]
    split <;> omega

/-- The shards that own more than the common share. -/
def richer (count : Nat) (map : BucketMap) : Finset Nat :=
  {shard ∈ range count | BUCKETS / count < ownedBy map shard}

/-- The quotas give the remainder to as many richer shards as they can. -/
def RemainderFits (count : Nat) (map : BucketMap) : Prop :=
  (∀ shard < BUCKETS % count, BUCKETS / count < ownedBy map shard) ∨
    ∀ shard < count, BUCKETS % count ≤ shard → ownedBy map shard ≤ BUCKETS / count

section Minimal
variable {count : Nat} {map other : BucketMap}

theorem sum_min_quota (map : BucketMap) :
    ∑ shard ∈ range count, min (ownedBy map shard) (quota count shard) =
      ∑ shard ∈ range count, min (ownedBy map shard) (BUCKETS / count) +
        #{shard ∈ richer count map | shard < BUCKETS % count} := by
  rw [richer, filter_filter, card_filter, ← sum_add_distrib]
  refine sum_congr rfl fun shard _ => ?_
  unfold quota
  split <;> split <;> omega

/-- What a balanced map can keep: the common share, and the remainder on richer shards. -/
theorem sum_min_balanced (map : BucketMap) (balanced : Balanced count other) :
    ∑ shard ∈ range count, min (ownedBy map shard) (ownedBy other shard) ≤
      ∑ shard ∈ range count, min (ownedBy map shard) (BUCKETS / count) +
        min (BUCKETS % count) #(richer count map) := by
  have division := Nat.div_add_mod BUCKETS count
  have extra : ∑ shard ∈ range count, (ownedBy other shard - BUCKETS / count) = BUCKETS % count := by
    have total := sum_ownedBy balanced.bound
    have split : ∑ shard ∈ range count, ownedBy other shard =
        ∑ shard ∈ range count, (BUCKETS / count + (ownedBy other shard - BUCKETS / count)) := by
      refine sum_congr rfl fun shard member => ?_
      have least := (balanced.owned (mem_range.mp member)).1
      omega
    rw [split, sum_add_distrib, sum_const, card_range, smul_eq_mul] at total
    omega
  have each : ∀ shard ∈ range count, min (ownedBy map shard) (ownedBy other shard) ≤
      min (ownedBy map shard) (BUCKETS / count) +
        if BUCKETS / count < ownedBy map shard then ownedBy other shard - BUCKETS / count else 0 := by
    intro shard member
    have bounds := balanced.owned (mem_range.mp member)
    split <;> omega
  refine (sum_le_sum each).trans ?_
  rw [sum_add_distrib]
  refine Nat.add_le_add_left (Nat.le_min.mpr ⟨?_, ?_⟩) _
  · rw [← extra]
    refine sum_le_sum fun shard _ => ?_
    split
    · exact le_rfl
    · exact Nat.zero_le _
  · rw [richer, card_filter]
    refine sum_le_sum fun shard member => ?_
    have bounds := balanced.owned (mem_range.mp member)
    split <;> omega

theorem changed_rebalanced (positive : 1 ≤ count) (bound : ∀ bucket, map bucket < count) :
    changedBuckets map (rebalanceBuckets map count) +
      (∑ shard ∈ range count, min (ownedBy map shard) (BUCKETS / count) +
        #{shard ∈ richer count map | shard < BUCKETS % count}) = BUCKETS := by
  have rebalanced := rebalanceBuckets_rebalanced positive bound
  have total := changed_add_kept bound (rebalanceBuckets map count)
  rw [sum_congr rfl fun shard member => rebalanced.kept shard (mem_range.mp member),
    sum_min_quota] at total
  exact total

theorem card_richer_fits (fits : RemainderFits count map) (positive : 1 ≤ count) :
    min (BUCKETS % count) #(richer count map) ≤ #{shard ∈ richer count map | shard < BUCKETS % count} := by
  have remainder := Nat.mod_lt BUCKETS positive
  rcases fits with filled | poor
  · refine ((Nat.min_le_left _ _).trans (card_range _).symm.le).trans ?_
    refine card_le_card fun shard member => ?_
    have low := mem_range.mp member
    exact mem_filter.mpr ⟨mem_filter.mpr ⟨mem_range.mpr (low.trans remainder), filled shard low⟩, low⟩
  · refine (Nat.min_le_right _ _).trans (card_le_card fun shard member => ?_)
    obtain ⟨within, more⟩ := mem_filter.mp member
    refine mem_filter.mpr ⟨member, ?_⟩
    by_contra beyond
    have less := poor shard (mem_range.mp within) (Nat.le_of_not_lt beyond)
    omega

/-- With two shards renamed into each other. -/
def swapped (first second : Nat) (map : BucketMap) : BucketMap :=
  fun bucket => Equiv.swap first second (map bucket)

theorem swap_lt {first second : Nat} (low : first < count) (within : second < count) (shard : Nat) :
    Equiv.swap first second shard < count ↔ shard < count := by
  rw [Equiv.swap_apply_def]
  split
  · omega
  · split <;> omega

theorem ownedBy_swapped (first second : Nat) (map : BucketMap) (shard : Nat) :
    ownedBy (swapped first second map) shard = ownedBy map (Equiv.swap first second shard) := by
  rw [ownedBy_eq_card, ownedBy_eq_card]
  congr 1
  ext bucket
  rw [mem_filter, mem_filter, swapped, Equiv.swap_apply_eq_iff]

theorem changedBuckets_swapped (first second : Nat) (map other : BucketMap) :
    changedBuckets map (swapped first second other) = changedBuckets (swapped first second map) other := by
  rw [changedBuckets_eq_card, changedBuckets_eq_card]
  congr 1
  ext bucket
  rw [mem_filter, mem_filter, swapped, swapped, ne_eq, ne_eq, Equiv.swap_apply_eq_iff]

/-- Where a shard within the remainder is poor and one beyond it is richer, the renamed map is
rebalanced with one move less. -/
theorem changed_swapped {first second : Nat} (positive : 1 ≤ count)
    (bound : ∀ bucket, map bucket < count) (within : first < BUCKETS % count)
    (poor : ownedBy map first ≤ BUCKETS / count) (low : second < count)
    (beyond : BUCKETS % count ≤ second) (more : BUCKETS / count < ownedBy map second) :
    changedBuckets (swapped first second map) (rebalanceBuckets (swapped first second map) count) + 1 =
      changedBuckets map (rebalanceBuckets map count) := by
  have remainder := Nat.mod_lt BUCKETS positive
  have renamed (shard : Nat) := swap_lt (within.trans remainder) low shard
  have before := changed_rebalanced positive bound
  have inside : ∀ bucket, swapped first second map bucket < count :=
    fun bucket => (renamed _).mpr (bound bucket)
  have after := changed_rebalanced positive inside
  have shares : ∑ shard ∈ range count, min (ownedBy (swapped first second map) shard) (BUCKETS / count) =
      ∑ shard ∈ range count, min (ownedBy map shard) (BUCKETS / count) := by
    refine sum_equiv (Equiv.swap first second) (fun shard => ?_) fun shard _ => ?_
    · rw [mem_range, mem_range, renamed]
    · rw [ownedBy_swapped]
  have one : #{shard ∈ richer count (swapped first second map) | shard < BUCKETS % count} =
      #{shard ∈ richer count map | shard < BUCKETS % count} + 1 := by
    have fresh : first ∉ ({shard ∈ richer count map | shard < BUCKETS % count} : Finset Nat) := by
      rw [mem_filter, richer, mem_filter]
      omega
    rw [← card_insert_of_notMem fresh]
    congr 1
    ext shard
    rw [mem_insert, mem_filter, mem_filter, richer, richer, mem_filter, mem_filter, mem_range,
      ownedBy_swapped, Equiv.swap_apply_def]
    split
    · omega
    · split <;> omega
  omega

/-- No balanced map changes fewer buckets, and a balanced map stays as it is. -/
structure FewestMoves (count : Nat) (map new : BucketMap) : Prop where
  least : ∀ other, Balanced count other → changedBuckets map new ≤ changedBuckets map other
  unchanged : Balanced count map → new = map

theorem rebalanceBuckets_fewest_iff (positive : 1 ≤ count) (bound : ∀ bucket, map bucket < count) :
    FewestMoves count map (rebalanceBuckets map count) ↔ RemainderFits count map := by
  have total := changed_rebalanced positive bound
  constructor
  · intro fewest
    by_contra misfit
    obtain ⟨wanting, exceeding⟩ := not_or.mp misfit
    push Not at wanting exceeding
    obtain ⟨first, within, poor⟩ := wanting
    obtain ⟨second, low, beyond, more⟩ := exceeding
    have better := changed_swapped positive bound within poor low beyond more
    have renamed (shard : Nat) := swap_lt (within.trans (Nat.mod_lt BUCKETS positive)) low shard
    have inside : ∀ bucket, swapped first second map bucket < count :=
      fun bucket => (renamed _).mpr (bound bucket)
    have exact_ := (rebalanceBuckets_rebalanced positive inside).exact_
    have balanced : Balanced count (swapped first second
        (rebalanceBuckets (swapped first second map) count)) := by
      refine ⟨fun bucket => (renamed _).mpr (exact_.bound bucket), fun one here two there => ?_⟩
      rw [ownedBy_swapped, ownedBy_swapped]
      exact exact_.balanced.level _ ((renamed one).mpr here) _ ((renamed two).mpr there)
    have least := fewest.least _ balanced
    rw [changedBuckets_swapped] at least
    omega
  · intro fits
    have best := card_richer_fits fits positive
    have least : ∀ other, Balanced count other →
        changedBuckets map (rebalanceBuckets map count) ≤ changedBuckets map other := by
      intro other balanced
      have kept := changed_add_kept bound other
      have most := sum_min_balanced map balanced
      have each : ∑ shard ∈ range count, #(keptBy map other shard) ≤
          ∑ shard ∈ range count, min (ownedBy map shard) (ownedBy other shard) :=
        sum_le_sum fun shard _ => card_keptBy_le map other shard
      omega
    refine ⟨least, fun balanced => funext fun bucket => ?_⟩
    have none := least map balanced
    rw [changedBuckets_eq_card map map, filter_false_of_mem fun bucket _ => not_not.mpr rfl,
      card_empty, Nat.le_zero, changedBuckets_eq_card, card_eq_zero, filter_eq_empty_iff] at none
    exact not_not.mp (none (mem_univ bucket))

end Minimal

theorem rebalanceBuckets_fewest_uneven :
    FewestMoves 3 uneven (rebalanceBuckets uneven 3) ↔ RemainderFits 3 uneven :=
  rebalanceBuckets_fewest_iff (by decide) (by decide)

/-- Balanced over three shards, with the bucket that is left over on the last. -/
def leftOverLast : BucketMap := fun bucket => if bucket.val < 21 then 0 else if bucket.val < 42 then 1 else 2

/-- The quota of the first shard takes a bucket from the last, though the map is balanced. -/
theorem leftOverLast_moved : ¬ FewestMoves 3 leftOverLast (rebalanceBuckets leftOverLast 3) := by
  have balanced : Balanced 3 leftOverLast := ⟨by decide, by decide⟩
  have moved : rebalanceBuckets leftOverLast 3 ⟨63, by decide⟩ ≠ leftOverLast ⟨63, by decide⟩ := by
    decide +kernel
  exact fun fewest => moved (congrFun (fewest.unchanged balanced) _)
end HotelBooking
