import HotelBooking.Sharding.ShardKey
import Mathlib.Algebra.BigOperators.Fin
import Mathlib.Algebra.Order.BigOperators.Group.Finset
import Mathlib.Data.Int.CardIntervalMod
import Mathlib.Algebra.BigOperators.Intervals
import Mathlib.Data.List.Induction

/-! Reassigning buckets when shards are added, as in resharding.ts. Surplus buckets are taken
from the end, stacked, and handed to the shards that lack some. -/
namespace HotelBooking
open Finset

/-- The array from bucket to shard; it has one entry for each of the 64 buckets. -/
abbrev BucketMap : Type := Fin BUCKETS → Nat

/-- Without a specification: bucket modulo the number of shards. -/
def buildBucketMap (shardCount : Nat) : BucketMap := fun bucket => bucket % shardCount

def quota (count shard : Nat) : Nat := BUCKETS / count + if shard < BUCKETS % count then 1 else 0

def ownedBy (map : BucketMap) (shard : Nat) : Nat :=
  ((List.finRange BUCKETS).filter fun bucket => map bucket = shard).length

/-- The variables of `rebalanceBuckets`. The head of `spare` is what `pop` takes. -/
structure Rebalancing where
  next : BucketMap
  owned : Nat → Nat
  spare : List (Fin BUCKETS)

namespace Rebalancing

/-- One bucket of the first loop. `owned` has no entry from `count` on, and `undefined` is
greater than no quota. -/
def shed (count : Nat) (state : Rebalancing) (bucket : Fin BUCKETS) : Rebalancing :=
  if state.next bucket < count ∧ quota count (state.next bucket) < state.owned (state.next bucket) then
    { state with
      owned := Function.update state.owned (state.next bucket) (state.owned (state.next bucket) - 1)
      spare := bucket :: state.spare }
  else state

/-- One round of the inner loop. From an empty stack `pop` gives `undefined`, no index. -/
def give (state : Rebalancing) (shard : Nat) : Rebalancing :=
  match state.spare with
  | [] => { state with owned := Function.update state.owned shard (state.owned shard + 1) }
  | bucket :: rest =>
    { next := Function.update state.next bucket shard
      owned := Function.update state.owned shard (state.owned shard + 1)
      spare := rest }

/-- The inner loop: a round for each missing bucket. -/
def fill (shard : Nat) : Nat → Rebalancing → Rebalancing
  | 0, state => state
  | missing + 1, state => fill shard missing (state.give shard)

end Rebalancing

def rebalanceBuckets (map : BucketMap) (count : Nat) : BucketMap :=
  let shed := (List.finRange BUCKETS).reverse.foldl (Rebalancing.shed count) ⟨map, ownedBy map, []⟩
  ((List.range count).foldl (fun state shard =>
    state.fill shard (quota count shard - state.owned shard)) shed).next

def changedBuckets (before after : BucketMap) : Nat :=
  ((List.finRange BUCKETS).filter fun bucket => after bucket ≠ before bucket).length

example : changedBuckets (buildBucketMap 2) (rebalanceBuckets (buildBucketMap 2) 3) = 21 := by
  decide +kernel

theorem ownedBy_eq_card (map : BucketMap) (shard : Nat) :
    ownedBy map shard = #{bucket | map bucket = shard} := rfl

theorem changedBuckets_eq_card (before after : BucketMap) :
    changedBuckets before after = #{bucket | after bucket ≠ before bucket} := rfl

/-- A map onto `count` shards in which each owns its quota. -/
structure QuotaExact (count : Nat) (map : BucketMap) : Prop where
  bound : ∀ bucket, map bucket < count
  owned : ∀ shard < count, ownedBy map shard = quota count shard

theorem sum_ownedBy {count : Nat} {map : BucketMap} (bound : ∀ bucket, map bucket < count) :
    ∑ shard ∈ range count, ownedBy map shard = BUCKETS := by
  have total := card_eq_sum_card_fiberwise (s := univ) (t := range count) (f := map)
    fun bucket _ => by simpa using bound bucket
  simpa [ownedBy_eq_card] using total.symm

theorem buildBucketMap_exact {shardCount : Nat} (positive : 1 ≤ shardCount) :
    QuotaExact shardCount (buildBucketMap shardCount) where
  bound bucket := Nat.mod_lt _ positive
  owned shard low := by
    have counted := Nat.count_modEq_card BUCKETS positive shard
    rw [Nat.mod_eq_of_lt low, Nat.count_eq_card_filter_range] at counted
    rw [quota, ← counted, ownedBy_eq_card, card_filter, card_filter, sum_range]
    refine sum_congr rfl fun bucket _ => ?_
    refine if_congr ?_ rfl rfl
    rw [buildBucketMap, Nat.ModEq, Nat.mod_eq_of_lt low]

theorem sum_quota {count : Nat} (positive : 1 ≤ count) : ∑ shard ∈ range count, quota count shard = BUCKETS := by
  have exact_ := buildBucketMap_exact positive
  rw [← sum_ownedBy exact_.bound]
  exact sum_congr rfl fun shard member => (exact_.owned shard (mem_range.mp member)).symm

/-- How often a shard comes up among the 64 buckets. -/
theorem quota_eq {count shard : Nat} (low : shard < count) (small : shard < BUCKETS) :
    quota count shard = (BUCKETS - 1 - shard) / count + 1 := by
  have division := Nat.div_add_mod BUCKETS count
  have remainder := Nat.mod_lt BUCKETS (Nat.zero_lt_of_lt low)
  unfold quota
  generalize BUCKETS / count = q at *
  generalize BUCKETS % count = r at *
  by_cases extra : shard < r
  · rw [if_pos extra, Nat.div_eq_of_lt_le (k := q)]
    · rw [Nat.mul_comm]
      omega
    · rw [Nat.succ_mul, Nat.mul_comm]
      omega
  · cases q with
    | zero => omega
    | succ k =>
      rw [Nat.mul_succ] at division
      rw [if_neg extra, Nat.div_eq_of_lt_le (k := k)]
      · rw [Nat.mul_comm]
        omega
      · rw [Nat.succ_mul, Nat.mul_comm]
        omega

/-- No shard's quota grows with the number of shards. -/
theorem quota_anti {before count shard : Nat} (low : shard < before) (grows : before ≤ count) :
    quota count shard ≤ quota before shard := by
  by_cases small : shard < BUCKETS
  · rw [quota_eq low small, quota_eq (low.trans_le grows) small]
    exact Nat.succ_le_succ (Nat.div_le_div_left grows (Nat.zero_lt_of_lt low))
  · have none : BUCKETS / count = 0 := Nat.div_eq_of_lt (by omega)
    have excess : ¬ shard < BUCKETS % count := fun below =>
      small (below.trans_le (Nat.mod_le _ _))
    rw [quota, none, if_neg excess]
    exact Nat.zero_le _

namespace Rebalancing

/-- The buckets that a shard has and that are not on the stack. -/
def held (state : Rebalancing) (shard : Nat) : Finset (Fin BUCKETS) :=
  {bucket | state.next bucket = shard ∧ bucket ∉ state.spare}

/-- The counters say what the shards hold. -/
structure Accounted (count : Nat) (state : Rebalancing) : Prop where
  bound : ∀ bucket, state.next bucket < count
  nodup : state.spare.Nodup
  owned : ∀ shard < count, state.owned shard = #(state.held shard)

theorem mem_held {state : Rebalancing} {shard : Nat} {bucket : Fin BUCKETS} :
    bucket ∈ state.held shard ↔ state.next bucket = shard ∧ bucket ∉ state.spare := by
  rw [held, mem_filter, and_iff_right (mem_univ bucket)]

/-- Every bucket is held by a shard or on the stack. -/
theorem Accounted.total {count : Nat} {state : Rebalancing} (accounted : state.Accounted count) :
    ∑ shard ∈ range count, state.owned shard + state.spare.length = BUCKETS := by
  have fibers := card_eq_sum_card_fiberwise (s := univ.filter (· ∉ state.spare)) (t := range count)
    (f := state.next) fun bucket _ => by simpa using accounted.bound bucket
  have sums : ∑ shard ∈ range count, state.owned shard = #(univ.filter (· ∉ state.spare)) := by
    rw [fibers]
    refine sum_congr rfl fun shard member => ?_
    rw [accounted.owned shard (mem_range.mp member)]
    congr 1
    ext bucket
    simp only [mem_held, mem_filter, mem_univ, true_and, and_comm]
  have stacked : state.spare.length = #(univ.filter (· ∈ state.spare)) := by
    rw [← List.toFinset_card_of_nodup accounted.nodup]
    congr 1
    ext bucket
    simp
  have split := card_filter_add_card_filter_not (s := (univ : Finset (Fin BUCKETS))) (· ∈ state.spare)
  rw [card_univ, Fintype.card_fin] at split
  omega

theorem held_start (map : BucketMap) (owned : Nat → Nat) (shard : Nat) :
    #(held ⟨map, owned, []⟩ shard) = ownedBy map shard := by
  rw [ownedBy_eq_card]
  congr 1
  ext bucket
  simp [mem_held]

/-- The first loop after some buckets: what it saw and left in place is within its quota. -/
structure Shedding (count : Nat) (map : BucketMap) (visited : List (Fin BUCKETS))
    (state : Rebalancing) : Prop where
  next : state.next = map
  accounted : state.Accounted count
  stacked : ∀ bucket ∈ state.spare, bucket ∈ visited
  kept : ∀ bucket ∈ visited, bucket ∉ state.spare →
    state.owned (map bucket) ≤ quota count (map bucket)
  least : ∀ shard < count, min (ownedBy map shard) (quota count shard) ≤ state.owned shard

section Shed
variable {count : Nat} {map : BucketMap} {visited : List (Fin BUCKETS)} {state : Rebalancing}

theorem shedding_start (bound : ∀ bucket, map bucket < count) :
    Shedding count map [] ⟨map, ownedBy map, []⟩ where
  next := rfl
  accounted := ⟨bound, List.nodup_nil, fun shard _ => (held_start map (ownedBy map) shard).symm⟩
  stacked _ member := member
  kept _ member := absurd member List.not_mem_nil
  least _ _ := Nat.min_le_left _ _

theorem Accounted.shed (accounted : state.Accounted count) {bucket : Fin BUCKETS}
    (fresh : bucket ∉ state.spare) : (state.shed count bucket).Accounted count := by
  unfold Rebalancing.shed
  split
  · refine ⟨accounted.bound, List.nodup_cons.mpr ⟨fresh, accounted.nodup⟩, fun shard low => ?_⟩
    by_cases same : shard = state.next bucket
    · subst same
      have here : bucket ∈ state.held (state.next bucket) := mem_held.mpr ⟨rfl, fresh⟩
      dsimp only
      rw [Function.update_self, accounted.owned _ low, ← card_erase_of_mem here]
      congr 1
      ext other
      simp only [mem_erase, mem_held, List.mem_cons, not_or]
      constructor
      · rintro ⟨different, owner, off⟩
        exact ⟨owner, different, off⟩
      · rintro ⟨owner, different, off⟩
        exact ⟨different, owner, off⟩
    · dsimp only
      rw [Function.update_of_ne same, accounted.owned shard low]
      congr 1
      ext other
      simp only [mem_held, List.mem_cons, not_or]
      constructor
      · rintro ⟨owner, off⟩
        refine ⟨owner, ?_, off⟩
        rintro rfl
        exact same owner.symm
      · rintro ⟨owner, _, off⟩
        exact ⟨owner, off⟩
  · exact accounted

theorem Shedding.step (shedding : Shedding count map visited state) {bucket : Fin BUCKETS}
    (fresh : bucket ∉ visited) :
    Shedding count map (bucket :: visited) (state.shed count bucket) := by
  have off : bucket ∉ state.spare := fun stacked => fresh (shedding.stacked bucket stacked)
  have accounted := shedding.accounted.shed off
  have low := shedding.accounted.bound bucket
  revert accounted
  obtain rfl := shedding.next
  unfold Rebalancing.shed
  split
  · next surplus =>
    intro accounted
    have fewer : ∀ shard, Function.update state.owned (state.next bucket)
        (state.owned (state.next bucket) - 1) shard ≤ state.owned shard := by
      intro shard
      by_cases same : shard = state.next bucket
      · rw [same, Function.update_self]
        exact Nat.sub_le _ _
      · rw [Function.update_of_ne same]
    refine ⟨rfl, accounted, ?_, ?_, ?_⟩
    · intro other member
      rcases List.mem_cons.mp member with rfl | earlier
      · exact List.mem_cons_self
      · exact List.mem_cons_of_mem _ (shedding.stacked other earlier)
    · intro other member kept
      rw [List.mem_cons, not_or] at kept
      obtain ⟨different, unstacked⟩ := kept
      have seen := (List.mem_cons.mp member).resolve_left different
      exact (fewer _).trans (shedding.kept other seen unstacked)
    · intro shard bound
      by_cases same : shard = state.next bucket
      · subst same
        dsimp only
        rw [Function.update_self]
        have enough := surplus.2
        omega
      · dsimp only
        rw [Function.update_of_ne same]
        exact shedding.least shard bound
  · next level =>
    intro accounted
    refine ⟨rfl, accounted, ?_, ?_, shedding.least⟩
    · exact fun other member => List.mem_cons_of_mem _ (shedding.stacked other member)
    · intro other member kept
      rcases List.mem_cons.mp member with rfl | earlier
      · exact Nat.le_of_not_lt fun more => level ⟨low, more⟩
      · exact shedding.kept other earlier kept

theorem Shedding.foldl {order : List (Fin BUCKETS)} (distinct : order.Nodup)
    (shedding : Shedding count map visited state) (fresh : ∀ bucket ∈ order, bucket ∉ visited) :
    ∃ seen, Shedding count map seen (order.foldl (Rebalancing.shed count) state) ∧
      ∀ bucket ∈ order, bucket ∈ seen := by
  have grows : ∃ seen, Shedding count map seen (order.foldl (Rebalancing.shed count) state) ∧
      ∀ bucket, bucket ∈ order ∨ bucket ∈ visited → bucket ∈ seen := by
    induction order generalizing visited state with
    | nil =>
      exact ⟨visited, shedding, fun bucket seen => seen.resolve_left List.not_mem_nil⟩
    | cons first rest ih =>
      obtain ⟨alone, distinct⟩ := List.nodup_cons.mp distinct
      obtain ⟨here, later⟩ := List.forall_mem_cons.mp fresh
      obtain ⟨seen, shedding, covers⟩ := ih distinct (shedding.step here) fun bucket member => by
        rw [List.mem_cons, not_or]
        refine ⟨?_, later bucket member⟩
        rintro rfl
        exact alone member
      refine ⟨seen, shedding, fun bucket member => covers bucket ?_⟩
      rw [List.mem_cons] at member ⊢
      tauto
  obtain ⟨seen, shedding, covers⟩ := grows
  exact ⟨seen, shedding, fun bucket member => covers bucket (Or.inl member)⟩

/-- After the first loop every shard has its quota, or what it had when that is less. -/
theorem Shedding.owned_eq (shedding : Shedding count map visited state)
    (all : ∀ bucket, bucket ∈ visited) {shard : Nat} (low : shard < count) :
    state.owned shard = min (ownedBy map shard) (quota count shard) := by
  have least := shedding.least shard low
  have counted := shedding.accounted.owned shard low
  have within : #(state.held shard) ≤ ownedBy map shard := by
    rw [ownedBy_eq_card, ← shedding.next]
    refine card_le_card fun bucket member => ?_
    rw [mem_filter]
    exact ⟨mem_univ bucket, (mem_held.mp member).1⟩
  have level : state.owned shard ≤ quota count shard := by
    by_cases empty : state.held shard = ∅
    · rw [counted, empty, card_empty]
      exact Nat.zero_le _
    · obtain ⟨bucket, member⟩ := nonempty_iff_ne_empty.mpr empty
      obtain ⟨owner, off⟩ := mem_held.mp member
      have kept := shedding.kept bucket (all bucket) off
      rw [← shedding.next, owner] at kept
      exact kept
  omega

theorem Shedding.card_held (shedding : Shedding count map visited state)
    (all : ∀ bucket, bucket ∈ visited) {shard : Nat} (low : shard < count) :
    #(state.held shard) = min (ownedBy map shard) (quota count shard) :=
  (shedding.accounted.owned shard low).symm.trans (shedding.owned_eq all low)

/-- A bucket goes on the stack only from a shard with more than its quota. -/
theorem Shedding.surplus (shedding : Shedding count map visited state)
    (all : ∀ bucket, bucket ∈ visited) {bucket : Fin BUCKETS} (stacked : bucket ∈ state.spare) :
    quota count (map bucket) < ownedBy map (map bucket) := by
  have low := shedding.accounted.bound bucket
  rw [shedding.next] at low
  have fewer : #(state.held (map bucket)) < ownedBy map (map bucket) := by
    rw [ownedBy_eq_card]
    refine card_lt_card ⟨fun other member => ?_, fun covers => ?_⟩
    · rw [mem_filter]
      exact ⟨mem_univ other, (congrFun shedding.next other).symm.trans (mem_held.mp member).1⟩
    · have here := covers (mem_filter.mpr ⟨mem_univ bucket, rfl⟩)
      exact (mem_held.mp here).2 stacked
  rw [shedding.card_held all low] at fewer
  omega

/-- The whole first loop. -/
theorem shed_all (bound : ∀ bucket, map bucket < count) :
    ∃ seen, Shedding count map seen
      ((List.finRange BUCKETS).reverse.foldl (shed count) ⟨map, ownedBy map, []⟩) ∧
      ∀ bucket, bucket ∈ seen := by
  obtain ⟨seen, shedding, all⟩ := (shedding_start bound).foldl
    (List.nodup_reverse.mpr (List.nodup_finRange BUCKETS)) fun _ _ => List.not_mem_nil
  exact ⟨seen, shedding, fun bucket => all bucket (List.mem_reverse.mpr (List.mem_finRange bucket))⟩

end Shed

/-- The second loop: what it placed came from the stack and went to a shard from `before` on. -/
structure Filling (before count : Nat) (start state : Rebalancing) : Prop where
  accounted : state.Accounted count
  within : ∀ shard < count, state.owned shard ≤ quota count shard
  old : ∀ shard < before, state.owned shard = quota count shard
  stacked : ∀ bucket ∈ state.spare, bucket ∈ start.spare
  kept : ∀ bucket ∉ start.spare, state.next bucket = start.next bucket
  placed : ∀ bucket ∈ start.spare, bucket ∉ state.spare → before ≤ state.next bucket

section Fill
variable {before count : Nat} {start state : Rebalancing}

theorem Shedding.filling {map : BucketMap} {visited : List (Fin BUCKETS)}
    (shedding : Shedding count map visited start) (all : ∀ bucket, bucket ∈ visited) :
    Filling 0 count start start := by
  refine ⟨shedding.accounted, ?_, fun shard none => absurd none (Nat.not_lt_zero shard),
    fun _ stacked => stacked, fun _ _ => rfl, fun _ _ _ => Nat.zero_le _⟩
  intro shard low
  rw [shedding.owned_eq all low]
  exact Nat.min_le_right _ _

theorem Filling.spare_ne_nil (filling : Filling before count start state) {shard : Nat}
    (low : shard < count) (lacks : state.owned shard < quota count shard) : state.spare ≠ [] := by
  intro empty
  have total := filling.accounted.total
  rw [empty, List.length_nil, ← sum_quota (Nat.zero_lt_of_lt low)] at total
  have less : ∑ other ∈ range count, state.owned other < ∑ other ∈ range count, quota count other :=
    sum_lt_sum (fun other member => filling.within other (mem_range.mp member))
      ⟨shard, mem_range.mpr low, lacks⟩
  omega

/-- Of the buckets on the stack only the top one leaves it. -/
theorem not_mem_rest {bucket : Fin BUCKETS} {rest : List (Fin BUCKETS)} (alone : bucket ∉ rest)
    (other : Fin BUCKETS) : other ∉ rest ↔ other = bucket ∨ other ∉ bucket :: rest := by
  rw [List.mem_cons, not_or]
  by_cases same : other = bucket
  · rw [same]
    exact ⟨fun _ => Or.inl rfl, fun _ => alone⟩
  · exact ⟨fun off => Or.inr ⟨same, off⟩, fun either => (either.resolve_left same).2⟩

theorem Accounted.give (accounted : state.Accounted count) {shard : Nat} (low : shard < count)
    (stacked : state.spare ≠ []) : (state.give shard).Accounted count := by
  unfold Rebalancing.give
  cases spare : state.spare with
  | nil => exact absurd spare stacked
  | cons bucket rest =>
    have distinct := accounted.nodup
    rw [spare] at distinct
    obtain ⟨alone, distinct⟩ := List.nodup_cons.mp distinct
    have shorter := not_mem_rest alone
    rw [← spare] at shorter
    have taken : bucket ∈ state.spare := by
      rw [spare]
      exact List.mem_cons_self
    refine ⟨fun other => ?_, distinct, fun other bound => ?_⟩
    · dsimp only
      by_cases same : other = bucket
      · rw [same, Function.update_self]
        exact low
      · rw [Function.update_of_ne same]
        exact accounted.bound other
    · dsimp only
      by_cases same : other = shard
      · subst same
        have absent : bucket ∉ state.held other := fun member => (mem_held.mp member).2 taken
        rw [Function.update_self, accounted.owned other bound, ← card_insert_of_notMem absent]
        congr 1
        ext one
        rw [mem_insert, mem_held, mem_held, shorter]
        by_cases here : one = bucket
        · simp [here]
        · simp [here]
      · rw [Function.update_of_ne same, accounted.owned other bound]
        congr 1
        ext one
        rw [mem_held, mem_held, shorter]
        by_cases here : one = bucket
        · subst here
          simp [taken, Ne.symm same]
        · simp [here]

theorem Filling.give (filling : Filling before count start state) {shard : Nat}
    (low : shard < count) (lacks : state.owned shard < quota count shard) :
    Filling before count start (state.give shard) ∧
      (state.give shard).owned = Function.update state.owned shard (state.owned shard + 1) := by
  have new : before ≤ shard := by
    by_contra old
    have full := filling.old shard (Nat.lt_of_not_le old)
    omega
  have accounted := filling.accounted.give low (filling.spare_ne_nil low lacks)
  revert accounted
  unfold Rebalancing.give
  cases spare : state.spare with
  | nil => exact absurd spare (filling.spare_ne_nil low lacks)
  | cons bucket rest =>
    intro accounted
    have distinct := filling.accounted.nodup
    rw [spare] at distinct
    have shorter := not_mem_rest (List.nodup_cons.mp distinct).1
    rw [← spare] at shorter
    have taken : bucket ∈ state.spare := by
      rw [spare]
      exact List.mem_cons_self
    refine ⟨⟨accounted, ?_, ?_, ?_, ?_, ?_⟩, rfl⟩
    · intro other bound
      dsimp only
      by_cases same : other = shard
      · rw [same, Function.update_self]
        exact lacks
      · rw [Function.update_of_ne same]
        exact filling.within other bound
    · intro other bound
      dsimp only
      rw [Function.update_of_ne (by omega)]
      exact filling.old other bound
    · intro other member
      refine filling.stacked other ?_
      rw [spare]
      exact List.mem_cons_of_mem _ member
    · intro other off
      dsimp only
      rw [Function.update_of_ne, filling.kept other off]
      rintro rfl
      exact off (filling.stacked other taken)
    · intro other member off
      dsimp only
      by_cases same : other = bucket
      · rw [same, Function.update_self]
        exact new
      · rw [Function.update_of_ne same]
        exact filling.placed other member (((shorter other).mp off).resolve_left same)

theorem Filling.fill {shard : Nat} (filling : Filling before count start state) (missing : Nat)
    (low : shard < count) (lacks : state.owned shard + missing = quota count shard) :
    Filling before count start (state.fill shard missing) ∧
      (state.fill shard missing).owned = Function.update state.owned shard (quota count shard) := by
  induction missing generalizing state with
  | zero =>
    refine ⟨filling, ?_⟩
    rw [← lacks, Nat.add_zero, Function.update_eq_self]
    rfl
  | succ missing ih =>
    obtain ⟨filling, owned⟩ := filling.give low (by omega)
    obtain ⟨filled, same⟩ := ih filling (by rw [owned, Function.update_self]; omega)
    refine ⟨filled, same.trans ?_⟩
    rw [owned, Function.update_idem]

/-- After the second loop has passed some shards, these have their quotas. -/
theorem Filling.foldl (filling : Filling before count start state) {passed : Nat}
    (bound : passed ≤ count) :
    Filling before count start ((List.range passed).foldl (fun state shard =>
      state.fill shard (quota count shard - state.owned shard)) state) ∧
    ∀ shard < passed, ((List.range passed).foldl (fun state shard =>
      state.fill shard (quota count shard - state.owned shard)) state).owned shard =
        quota count shard := by
  induction passed with
  | zero => exact ⟨filling, fun shard none => absurd none (Nat.not_lt_zero shard)⟩
  | succ passed ih =>
    obtain ⟨filled, full⟩ := ih (by omega)
    rw [List.range_succ, List.foldl_append, List.foldl_cons, List.foldl_nil]
    generalize (List.range passed).foldl (fun state shard =>
      state.fill shard (quota count shard - state.owned shard)) state = now at filled full ⊢
    have within := filled.within passed bound
    obtain ⟨filled, owned⟩ := filled.fill (quota count passed - now.owned passed) bound (by omega)
    refine ⟨filled, fun shard low => ?_⟩
    rw [owned]
    by_cases same : shard = passed
    · rw [same, Function.update_self]
    · rw [Function.update_of_ne same]
      exact full shard (by omega)

theorem Shedding.stays {map : BucketMap} {visited : List (Fin BUCKETS)}
    (shedding : Shedding count map visited start) (filling : Filling before count start state)
    {bucket : Fin BUCKETS} (off : bucket ∉ start.spare) : state.next bucket = map bucket :=
  (filling.kept bucket off).trans (congrFun shedding.next bucket)

/-- A shard that had its quota before ends with the buckets that the first loop left it. -/
theorem Shedding.settled {map : BucketMap} {visited : List (Fin BUCKETS)}
    (shedding : Shedding count map visited start) (all : ∀ bucket, bucket ∈ visited)
    (filling : Filling before count start state)
    (final : ∀ shard < count, ownedBy state.next shard = quota count shard) {bucket : Fin BUCKETS}
    (enough : quota count (state.next bucket) ≤ ownedBy map (state.next bucket)) :
    bucket ∉ start.spare := by
  have low := filling.accounted.bound bucket
  have within : start.held (state.next bucket) ⊆
      univ.filter fun other => state.next other = state.next bucket := by
    intro other member
    obtain ⟨owner, off⟩ := mem_held.mp member
    rw [mem_filter, shedding.stays filling off, ← owner]
    exact ⟨mem_univ other, (congrFun shedding.next other).symm⟩
  have same := eq_of_subset_of_card_le within (by
    rw [shedding.card_held all low, Nat.min_eq_right enough, ← ownedBy_eq_card, final _ low])
  have member : bucket ∈ start.held (state.next bucket) := by
    rw [same, mem_filter]
    exact ⟨mem_univ bucket, rfl⟩
  exact (mem_held.mp member).2

end Fill
end Rebalancing

/-- What moving from `before` shards to `count` shards has to achieve. -/
structure MinimalGrowth (before count : Nat) (old new : BucketMap) : Prop where
  owned : ∀ shard < count, ownedBy new shard = quota count shard
  toNew : ∀ bucket, new bucket ≠ old bucket → before ≤ new bucket
  changed : changedBuckets old new = ∑ shard ∈ Ico before count, quota count shard
  least : ∀ other : BucketMap, (∀ shard < count, ownedBy other shard = quota count shard) →
    changedBuckets old new ≤ changedBuckets old other

/-- Buckets that a map gives to new shards have changed. -/
theorem sum_new_le {before count : Nat} {old new : BucketMap} (bound : ∀ bucket, old bucket < before) :
    ∑ shard ∈ Ico before count, ownedBy new shard ≤ changedBuckets old new := by
  have fibers := card_eq_sum_card_fiberwise (s := univ.filter fun bucket => new bucket ∈ Ico before count)
    (t := Ico before count) (f := new) fun bucket member => by simpa using member
  have parts : ∑ shard ∈ Ico before count, ownedBy new shard =
      #(univ.filter fun bucket => new bucket ∈ Ico before count) := by
    rw [fibers]
    refine sum_congr rfl fun shard member => ?_
    rw [ownedBy_eq_card]
    congr 1
    ext bucket
    simp only [mem_filter, mem_univ, true_and]
    constructor
    · rintro rfl
      exact ⟨member, rfl⟩
    · exact fun both => both.2
  rw [parts, changedBuckets_eq_card]
  refine card_le_card fun bucket member => ?_
  rw [mem_filter] at member ⊢
  refine ⟨mem_univ bucket, fun same => ?_⟩
  have new_shard := (mem_Ico.mp member.2).1
  have old_shard := bound bucket
  omega

/-- The buckets that a shard had and still has. -/
def keptBy (before after : BucketMap) (shard : Nat) : Finset (Fin BUCKETS) :=
  {bucket | before bucket = shard ∧ after bucket = shard}

theorem mem_keptBy {before after : BucketMap} {shard : Nat} {bucket : Fin BUCKETS} :
    bucket ∈ keptBy before after shard ↔ before bucket = shard ∧ after bucket = shard := by
  rw [keptBy, mem_filter, and_iff_right (mem_univ bucket)]

theorem card_keptBy_le (before after : BucketMap) (shard : Nat) :
    #(keptBy before after shard) ≤ min (ownedBy before shard) (ownedBy after shard) := by
  rw [ownedBy_eq_card, ownedBy_eq_card, Nat.le_min]
  constructor
  · refine card_le_card fun bucket member => ?_
    rw [mem_filter]
    exact ⟨mem_univ bucket, (mem_keptBy.mp member).1⟩
  · refine card_le_card fun bucket member => ?_
    rw [mem_filter]
    exact ⟨mem_univ bucket, (mem_keptBy.mp member).2⟩

/-- Every bucket has changed or is kept by its shard. -/
theorem changed_add_kept {count : Nat} {before : BucketMap} (bound : ∀ bucket, before bucket < count)
    (after : BucketMap) :
    changedBuckets before after + ∑ shard ∈ range count, #(keptBy before after shard) = BUCKETS := by
  have fibers := card_eq_sum_card_fiberwise (s := univ.filter fun bucket => after bucket = before bucket)
    (t := range count) (f := before) fun bucket _ => by simpa using bound bucket
  have parts : ∑ shard ∈ range count, #(keptBy before after shard) =
      #(univ.filter fun bucket => after bucket = before bucket) := by
    rw [fibers]
    refine sum_congr rfl fun shard _ => ?_
    congr 1
    ext bucket
    simp only [mem_keptBy, mem_filter, mem_univ, true_and]
    constructor
    · rintro ⟨rfl, same⟩
      exact ⟨same, rfl⟩
    · rintro ⟨same, rfl⟩
      exact ⟨rfl, same⟩
  have split := card_filter_add_card_filter_not (s := (univ : Finset (Fin BUCKETS)))
    fun bucket => after bucket = before bucket
  rw [card_univ, Fintype.card_fin, Nat.add_comm] at split
  rw [parts, changedBuckets_eq_card]
  exact split

/-- What `rebalanceBuckets` makes of any map: only the surplus of a shard moves, and only to
shards that lack some. -/
structure Rebalanced (count : Nat) (map new : BucketMap) : Prop where
  exact_ : QuotaExact count new
  kept : ∀ shard < count, #(keptBy map new shard) = min (ownedBy map shard) (quota count shard)
  moved : ∀ bucket, new bucket ≠ map bucket →
    quota count (map bucket) < ownedBy map (map bucket) ∧
      ownedBy map (new bucket) < quota count (new bucket)

theorem rebalanceBuckets_rebalanced {count : Nat} {map : BucketMap} (positive : 1 ≤ count)
    (bound : ∀ bucket, map bucket < count) :
    Rebalanced count map (rebalanceBuckets map count) := by
  obtain ⟨seen, shedding, all⟩ := Rebalancing.shed_all bound
  unfold rebalanceBuckets
  dsimp only
  generalize (List.finRange BUCKETS).reverse.foldl (Rebalancing.shed count)
    ⟨map, ownedBy map, []⟩ = start at shedding ⊢
  obtain ⟨filled, full⟩ := (shedding.filling all).foldl le_rfl
  generalize (List.range count).foldl (fun state shard =>
    state.fill shard (quota count shard - state.owned shard)) start = done at filled full ⊢
  have total := filled.accounted.total
  have empty : done.spare = [] := by
    rw [sum_congr rfl fun shard member => full shard (mem_range.mp member),
      sum_quota positive] at total
    exact List.length_eq_zero_iff.mp (by omega)
  have final : ∀ shard < count, ownedBy done.next shard = quota count shard := by
    intro shard low
    rw [← full shard low, filled.accounted.owned shard low, ownedBy_eq_card]
    congr 1
    ext bucket
    simp [Rebalancing.mem_held, empty]
  have stays : ∀ bucket ∉ start.spare, done.next bucket = map bucket :=
    fun bucket off => shedding.stays filled off
  refine ⟨⟨filled.accounted.bound, final⟩, ?_, ?_⟩
  · intro shard low
    rw [← shedding.card_held all low]
    congr 1
    ext bucket
    rw [mem_keptBy, Rebalancing.mem_held, shedding.next]
    constructor
    · rintro ⟨rfl, same⟩
      refine ⟨rfl, fun stacked => shedding.settled all filled final ?_ stacked⟩
      rw [same]
      exact Nat.le_of_lt (shedding.surplus all stacked)
    · rintro ⟨rfl, off⟩
      exact ⟨rfl, stays bucket off⟩
  · intro bucket different
    have stacked : bucket ∈ start.spare := by
      by_contra off
      exact different (stays bucket off)
    refine ⟨shedding.surplus all stacked, ?_⟩
    by_contra enough
    exact shedding.settled all filled final (Nat.le_of_not_lt enough) stacked

/-- One step of growth from a map that is quota-exact. -/
theorem rebalanceBuckets_grows {before count : Nat} {map : BucketMap} (positive : 1 ≤ before)
    (grows : before ≤ count) (exact_ : QuotaExact before map) :
    QuotaExact count (rebalanceBuckets map count) ∧
      MinimalGrowth before count map (rebalanceBuckets map count) := by
  have bound : ∀ bucket, map bucket < count := fun bucket => (exact_.bound bucket).trans_le grows
  have rebalanced := rebalanceBuckets_rebalanced (positive.trans grows) bound
  have changed : changedBuckets map (rebalanceBuckets map count) =
      ∑ shard ∈ Ico before count, quota count shard := by
    have old : ∑ shard ∈ range before, #(keptBy map (rebalanceBuckets map count) shard) =
        ∑ shard ∈ range before, quota count shard := by
      refine sum_congr rfl fun shard member => ?_
      have low := mem_range.mp member
      rw [rebalanced.kept shard (low.trans_le grows), exact_.owned shard low]
      exact Nat.min_eq_right (quota_anti low grows)
    have none : ∑ shard ∈ Ico before count, #(keptBy map (rebalanceBuckets map count) shard) = 0 := by
      refine sum_eq_zero fun shard member => card_eq_zero.mpr (filter_eq_empty_iff.mpr ?_)
      rintro bucket _ ⟨here, _⟩
      have low := exact_.bound bucket
      have new := (mem_Ico.mp member).1
      omega
    have total := changed_add_kept bound (rebalanceBuckets map count)
    have quotas := sum_quota (positive.trans grows)
    rw [← sum_range_add_sum_Ico _ grows, old, none] at total
    rw [← sum_range_add_sum_Ico _ grows] at quotas
    omega
  refine ⟨rebalanced.exact_, rebalanced.exact_.owned, ?_, changed, ?_⟩
  · intro bucket different
    by_contra old
    have low := Nat.lt_of_not_le old
    have lacks := (rebalanced.moved bucket different).2
    rw [exact_.owned _ low] at lacks
    exact absurd (quota_anti low grows) (Nat.not_le_of_lt lacks)
  · intro other given
    rw [changed, ← sum_congr rfl fun shard member => given shard (mem_Ico.mp member).2]
    exact sum_new_le exact_.bound

/-- `buildBucketMap(first)`, rebalanced to each of the counts in turn. -/
def growBucketMap (first : Nat) (counts : List Nat) : BucketMap :=
  counts.foldl rebalanceBuckets (buildBucketMap first)

theorem growBucketMap_concat (first : Nat) (counts : List Nat) (count : Nat) :
    growBucketMap first (counts ++ [count]) = rebalanceBuckets (growBucketMap first counts) count := by
  rw [growBucketMap, List.foldl_append]
  rfl

theorem getLastD_lt {first count : Nat} {counts : List Nat}
    (increasing : (first :: counts ++ [count]).Pairwise (· < ·)) : counts.getLastD first < count := by
  refine (List.pairwise_append.mp increasing).2.2 _ ?_ count List.mem_cons_self
  rw [List.getLastD_eq_getLast?]
  cases last : counts.getLast? with
  | none => exact List.mem_cons_self
  | some value => exact List.mem_cons_of_mem _ (List.mem_of_getLast? last)

/-- Along a growing chain each shard owns its quota. -/
theorem growBucketMap_exact {first : Nat} {counts : List Nat} (positive : 1 ≤ first)
    (increasing : (first :: counts).Pairwise (· < ·)) : 1 ≤ counts.getLastD first ∧
      QuotaExact (counts.getLastD first) (growBucketMap first counts) := by
  induction counts using List.reverseRecOn with
  | nil => exact ⟨positive, buildBucketMap_exact positive⟩
  | append_singleton counts count ih =>
    rw [← List.cons_append] at increasing
    obtain ⟨low, exact_⟩ := ih (List.pairwise_append.mp increasing).1
    have grows := getLastD_lt increasing
    rw [growBucketMap_concat, List.getLastD_concat]
    exact ⟨low.trans (Nat.le_of_lt grows), (rebalanceBuckets_grows low (Nat.le_of_lt grows) exact_).1⟩

/-- The last step of any growing chain, and so every step of one. -/
theorem growth_minimal {first : Nat} {counts : List Nat} {count : Nat} (positive : 1 ≤ first)
    (increasing : (first :: (counts ++ [count])).Pairwise (· < ·)) :
    MinimalGrowth (counts.getLastD first) count (growBucketMap first counts)
      (growBucketMap first (counts ++ [count])) := by
  rw [← List.cons_append] at increasing
  obtain ⟨low, exact_⟩ := growBucketMap_exact positive (List.pairwise_append.mp increasing).1
  have grows := getLastD_lt increasing
  rw [growBucketMap_concat]
  exact (rebalanceBuckets_grows low (Nat.le_of_lt grows) exact_).2

/-- From two shards by way of three to five. -/
theorem growth_minimal_five :
    MinimalGrowth 3 5 (growBucketMap 2 [3]) (growBucketMap 2 [3, 5]) :=
  @growth_minimal 2 [3] 5 (by decide) (by decide)

end HotelBooking
