import HotelBooking.Sharding.HashRing
import HotelBooking.Sharding.Rebalance
import Mathlib.Data.Nat.Periodic

/-! The comparison of the three routing schemes in resharding.ts: where the keys are before and
after the number of shards changes, and how many each shard then has. -/
namespace HotelBooking
open Finset

inductive Scheme where
  | modulo
  | virtualBuckets
  | consistentHash
  deriving DecidableEq

def Scheme.all : List Scheme := [.modulo, .virtualBuckets, .consistentHash]

/-- A placement of keys by their hashes, and the map of the scheme that has one. Without a
shard the call throws. -/
structure Placement where
  shardOf : Nat → Option Nat
  map : Option BucketMap

def bucketOfHash (hash : Nat) : Fin BUCKETS := ⟨hash % BUCKETS, Nat.mod_lt _ (by decide)⟩

def placement (ringPosition : Text → UInt32) (scheme : Scheme) (shardCount vnodes : Nat)
    (previousMap : Option BucketMap) : Placement :=
  match scheme with
  | .modulo => ⟨fun hash => some (hash % shardCount), none⟩
  | .virtualBuckets =>
    let map := match previousMap with
      | some previous => rebalanceBuckets previous shardCount
      | none => buildBucketMap shardCount
    ⟨fun hash => some (map (bucketOfHash hash)), some map⟩
  | .consistentHash =>
    let ring := HashRing.build ringPosition shardCount vnodes
    ⟨ring.shardOf, none⟩

/-- An element of the array `load`. -/
inductive Counter where
  | number (count : Nat)
  | notANumber
  | hole
  deriving DecidableEq

def Counter.next : Counter → Counter
  | .number count => .number (count + 1)
  | _ => .notANumber

/-- `load[target]++`. Past its end the array grows, and `undefined` counts up to NaN. -/
def increment (load : List Counter) (target : Nat) : List Counter :=
  if target < load.length then load.modify target Counter.next
  else load ++ List.replicate (target - load.length) .hole ++ [.notANumber]

/-- A row of the result. The percentages in it are `moved` and `load` against the number of
keys, rounded. -/
structure ReshardingRow where
  scheme : Scheme
  before : Nat
  after : Nat
  moved : Nat
  load : List Counter

/-- One round of the loop over the keys. -/
def countKey (before after : Placement) (counts : List Counter × Nat) (hash : Nat) :
    Option (List Counter × Nat) := do
  let target ← after.shardOf hash
  let source ← before.shardOf hash
  return (increment counts.1 target, if source ≠ target then counts.2 + 1 else counts.2)

def reshardingRow (ringPosition : Text → UInt32) (hashes : List Nat) (vnodes : Nat)
    (transition : Nat × Nat) (scheme : Scheme) : Option ReshardingRow := do
  let before := placement ringPosition scheme transition.1 vnodes none
  let after := placement ringPosition scheme transition.2 vnodes before.map
  let (load, moved) ← hashes.foldlM (countKey before after)
    (List.replicate transition.2 (.number 0), 0)
  return ⟨scheme, transition.1, transition.2, moved, load⟩

/-- Two nested loops: for each transition, each scheme. -/
def reshardingJobs (transitions : List (Nat × Nat)) : List ((Nat × Nat) × Scheme) :=
  transitions.flatMap fun transition => Scheme.all.map fun scheme => (transition, scheme)

/-- The hashes are those of the random keys. -/
def simulateResharding (ringPosition : Text → UInt32) (transitions : List (Nat × Nat))
    (hashes : List Nat) (vnodes : Nat) : Option (List ReshardingRow) :=
  (reshardingJobs transitions).mapM fun job => reshardingRow ringPosition hashes vnodes job.1 job.2

def defaultTransitions : List (Nat × Nat) := [(2, 3), (2, 4), (3, 4), (4, 5)]

namespace Rebalancing

/-- Buckets of shards that exist go to shards that exist; the others stay. -/
structure Confined (count : Nat) (map : BucketMap) (state : Rebalancing) : Prop where
  inside : ∀ bucket, map bucket < count → state.next bucket < count
  outside : ∀ bucket, count ≤ map bucket → state.next bucket = map bucket
  spare : ∀ bucket ∈ state.spare, map bucket < count

section
variable {count : Nat} {map : BucketMap} {state : Rebalancing}

theorem Confined.shed (confined : state.Confined count map) (bucket : Fin BUCKETS) :
    (state.shed count bucket).Confined count map := by
  unfold Rebalancing.shed
  split
  · next surplus =>
    refine ⟨confined.inside, confined.outside, fun other member => ?_⟩
    rcases List.mem_cons.mp member with rfl | old
    · by_contra high
      rw [confined.outside other (Nat.le_of_not_lt high)] at surplus
      exact high surplus.1
    · exact confined.spare other old
  · exact confined

theorem Confined.give (confined : state.Confined count map) {shard : Nat} (low : shard < count) :
    (state.give shard).Confined count map := by
  unfold Rebalancing.give
  split
  · exact ⟨confined.inside, confined.outside, confined.spare⟩
  · next bucket rest stacked =>
    have here : map bucket < count := confined.spare bucket (by rw [stacked]; exact List.mem_cons_self)
    refine ⟨fun other below => ?_, fun other above => ?_, fun other member => ?_⟩
    · by_cases same : other = bucket
      · subst same
        dsimp only
        rwa [Function.update_self]
      · dsimp only
        rw [Function.update_of_ne same]
        exact confined.inside other below
    · dsimp only
      rw [Function.update_of_ne (by rintro rfl; omega)]
      exact confined.outside other above
    · exact confined.spare other (by rw [stacked]; exact List.mem_cons_of_mem _ member)

theorem Confined.fill (confined : state.Confined count map) {shard : Nat} (low : shard < count)
    (missing : Nat) : (state.fill shard missing).Confined count map := by
  induction missing generalizing state with
  | zero => exact confined
  | succ missing ih => exact ih (confined.give low)

theorem confined_shed_all (buckets : List (Fin BUCKETS)) (confined : state.Confined count map) :
    (buckets.foldl (Rebalancing.shed count) state).Confined count map := by
  induction buckets generalizing state with
  | nil => exact confined
  | cons bucket buckets ih => exact ih (confined.shed bucket)

theorem confined_fill_all (shards : List Nat) (low : ∀ shard ∈ shards, shard < count)
    (confined : state.Confined count map) :
    (shards.foldl (fun state shard =>
      state.fill shard (quota count shard - state.owned shard)) state).Confined count map := by
  induction shards generalizing state with
  | nil => exact confined
  | cons shard shards ih =>
    refine ih (fun other member => low other (List.mem_cons_of_mem _ member)) ?_
    exact confined.fill (low shard List.mem_cons_self) _

end
end Rebalancing

/-- A bucket has a shard that exists exactly when it had one of those before. -/
theorem rebalanceBuckets_lt_iff (map : BucketMap) (count : Nat) (bucket : Fin BUCKETS) :
    rebalanceBuckets map count bucket < count ↔ map bucket < count := by
  have start : Rebalancing.Confined count map ⟨map, ownedBy map, []⟩ :=
    ⟨fun _ low => low, fun _ _ => rfl, fun _ none => absurd none List.not_mem_nil⟩
  have shed := Rebalancing.confined_shed_all (List.finRange BUCKETS).reverse start
  have filled := Rebalancing.confined_fill_all (List.range count) (fun _ => List.mem_range.mp) shed
  constructor
  · intro low
    by_contra high
    have stays := filled.outside bucket (Nat.le_of_not_lt high)
    exact high (stays ▸ low)
  · exact filled.inside bucket

/-- The placement after a transition, which starts from the map before it. -/
def placementAfter (ringPosition : Text → UInt32) (vnodes : Nat) (transition : Nat × Nat)
    (scheme : Scheme) : Placement :=
  placement ringPosition scheme transition.2 vnodes
    (placement ringPosition scheme transition.1 vnodes none).map

/-- The shards of these keys exist, and the counters, one for each shard, account for them. -/
structure ReshardingRow.Sound (ringPosition : Text → UInt32) (vnodes : Nat) (hashes : List Nat)
    (row : ReshardingRow) : Prop where
  placed : ∀ hash ∈ hashes, ∃ shard < row.after,
    (placementAfter ringPosition vnodes (row.before, row.after) row.scheme).shardOf hash = some shard
  counted : ∃ counts : List Nat, row.load = counts.map Counter.number ∧
    counts.length = row.after ∧ counts.sum = hashes.length

/-- The key's shard before the transition exists after it, where the scheme remembers it. -/
def StaysPlaced (transition : Nat × Nat) (scheme : Scheme) (hash : Nat) : Prop :=
  scheme = .virtualBuckets → hash % BUCKETS % transition.1 < transition.2

section Placed
variable (ringPosition : Text → UInt32) {vnodes shardCount : Nat} {transition : Nat × Nat}

theorem ring_shardOf_lt (shard : 1 ≤ shardCount) (vnode : 1 ≤ vnodes) (hash : Nat) :
    ∃ owner < shardCount, (HashRing.build ringPosition shardCount vnodes).shardOf hash = some owner := by
  obtain ⟨point, nearest, found⟩ := HashRing.shardOf_nearest _ hash HashRing.build_ordered
    (HashRing.mem_build_zero ringPosition shard vnode)
  exact ⟨point.shard, (HashRing.mem_build.mp nearest.member).1, found⟩

/-- Before the transition every key has a shard. -/
theorem placement_shardOf (scheme : Scheme) (shard : 1 ≤ shardCount) (vnode : 1 ≤ vnodes)
    (hash : Nat) :
    ∃ owner < shardCount, (placement ringPosition scheme shardCount vnodes none).shardOf hash =
      some owner := by
  cases scheme with
  | modulo => exact ⟨_, Nat.mod_lt _ shard, rfl⟩
  | virtualBuckets => exact ⟨_, Nat.mod_lt _ shard, rfl⟩
  | consistentHash => exact ring_shardOf_lt ringPosition shard vnode hash

/-- After it too, and that shard exists exactly where the key's old one need not be given up. -/
theorem placementAfter_shardOf (scheme : Scheme) (shard : 1 ≤ transition.2) (vnode : 1 ≤ vnodes)
    (hash : Nat) :
    ∃ owner, (placementAfter ringPosition vnodes transition scheme).shardOf hash = some owner ∧
      (owner < transition.2 ↔ StaysPlaced transition scheme hash) := by
  cases scheme with
  | modulo =>
    refine ⟨hash % transition.2, rfl, fun _ other => ?_, fun _ => Nat.mod_lt _ shard⟩
    cases other
  | virtualBuckets =>
    refine ⟨rebalanceBuckets (buildBucketMap transition.1) transition.2 (bucketOfHash hash), rfl, ?_⟩
    rw [rebalanceBuckets_lt_iff]
    exact ⟨fun low _ => low, fun keeps => keeps rfl⟩
  | consistentHash =>
    obtain ⟨owner, low, found⟩ := ring_shardOf_lt ringPosition shard vnode hash
    refine ⟨owner, found, fun _ other => ?_, fun _ => low⟩
    cases other

end Placed

section Counting
variable {before after : Placement}

theorem sum_modify_succ (counts : List Nat) (target : Nat) (inside : target < counts.length) :
    (counts.modify target (· + 1)).sum = counts.sum + 1 := by
  induction counts generalizing target with
  | nil => cases inside
  | cons count counts ih =>
    cases target with
    | zero =>
      rw [List.modify_zero_cons, List.sum_cons, List.sum_cons]
      omega
    | succ target =>
      rw [List.modify_succ_cons, List.sum_cons, List.sum_cons, ih target (Nat.lt_of_succ_lt_succ inside)]
      omega

theorem map_modify_succ (counts : List Nat) (target : Nat) :
    (counts.map Counter.number).modify target Counter.next =
      (counts.modify target (· + 1)).map Counter.number := by
  induction counts generalizing target with
  | nil => simp
  | cons count counts ih =>
    cases target with
    | zero => rfl
    | succ target => rw [List.map_cons, List.modify_succ_cons, List.modify_succ_cons, ih, List.map_cons]

theorem increment_number {counts : List Nat} {target : Nat} (inside : target < counts.length) :
    increment (counts.map Counter.number) target =
      (counts.modify target (· + 1)).map Counter.number := by
  rw [increment, if_pos (by rwa [List.length_map]), map_modify_succ]

/-- The loop over the keys comes to its end. -/
theorem foldlM_countKey_isSome (hashes : List Nat) (counts : List Counter × Nat)
    (source : ∀ hash ∈ hashes, ∃ shard, before.shardOf hash = some shard)
    (target : ∀ hash ∈ hashes, ∃ shard, after.shardOf hash = some shard) :
    ∃ final, hashes.foldlM (countKey before after) counts = some final := by
  induction hashes generalizing counts with
  | nil => exact ⟨counts, rfl⟩
  | cons hash hashes ih =>
    obtain ⟨old, left⟩ := source hash List.mem_cons_self
    obtain ⟨new, right⟩ := target hash List.mem_cons_self
    rw [List.foldlM_cons, countKey, right, left]
    exact ih _ (fun other member => source other (List.mem_cons_of_mem _ member))
      fun other member => target other (List.mem_cons_of_mem _ member)

/-- While the shards exist, the counters count. -/
theorem foldlM_countKey_number (hashes counts : List Nat) (moved : Nat)
    (source : ∀ hash ∈ hashes, ∃ shard, before.shardOf hash = some shard)
    (target : ∀ hash ∈ hashes, ∃ shard < counts.length, after.shardOf hash = some shard) :
    ∃ (counts' : List Nat) (moved' : Nat),
      hashes.foldlM (countKey before after) (counts.map Counter.number, moved) =
        some (counts'.map Counter.number, moved') ∧
      counts'.length = counts.length ∧ counts'.sum = counts.sum + hashes.length := by
  induction hashes generalizing counts moved with
  | nil => exact ⟨counts, moved, rfl, rfl, rfl⟩
  | cons hash hashes ih =>
    obtain ⟨old, left⟩ := source hash List.mem_cons_self
    obtain ⟨new, inside, right⟩ := target hash List.mem_cons_self
    have length : (counts.modify new (· + 1)).length = counts.length := List.length_modify _ _ _
    obtain ⟨counts', moved', done, length', sum⟩ := ih (counts.modify new (· + 1))
      (if old ≠ new then moved + 1 else moved)
      (fun other member => source other (List.mem_cons_of_mem _ member))
      (fun other member => by
        rw [length]
        exact target other (List.mem_cons_of_mem _ member))
    refine ⟨counts', moved', ?_, length'.trans length, ?_⟩
    · rw [List.foldlM_cons, countKey, right, left, ← done, ← increment_number inside]
      rfl
    · rw [sum, sum_modify_succ counts new inside, List.length_cons]
      omega

end Counting

/-- A row is computed, and it is sound exactly when no key's shard is given up. -/
theorem reshardingRow_sound (ringPosition : Text → UInt32) {vnodes : Nat} {transition : Nat × Nat}
    (positive : 1 ≤ transition.1 ∧ 1 ≤ transition.2) (vnode : 1 ≤ vnodes) (hashes : List Nat)
    (scheme : Scheme) :
    ∃ row, reshardingRow ringPosition hashes vnodes transition scheme = some row ∧
      (row.Sound ringPosition vnodes hashes ↔ ∀ hash ∈ hashes, StaysPlaced transition scheme hash) := by
  have target := @placementAfter_shardOf ringPosition vnodes transition scheme positive.2 vnode
  have source : ∀ hash, ∃ owner,
      (placement ringPosition scheme transition.1 vnodes none).shardOf hash = some owner := by
    intro hash
    obtain ⟨owner, _, found⟩ := placement_shardOf ringPosition scheme positive.1 vnode hash
    exact ⟨owner, found⟩
  have finds : ∀ hash, ∃ owner,
      (placementAfter ringPosition vnodes transition scheme).shardOf hash = some owner := by
    intro hash
    obtain ⟨owner, found, _⟩ := target hash
    exact ⟨owner, found⟩
  obtain ⟨final, done⟩ := foldlM_countKey_isSome hashes
    (List.replicate transition.2 (Counter.number 0), 0) (fun hash _ => source hash)
    fun hash _ => finds hash
  have computed : reshardingRow ringPosition hashes vnodes transition scheme =
      some ⟨scheme, transition.1, transition.2, final.2, final.1⟩ := by
    change (hashes.foldlM (countKey _ (placementAfter ringPosition vnodes transition scheme)) _).bind
      _ = _
    rw [done]
    rfl
  refine ⟨_, computed, fun sound hash member => ?_, fun keeps => ?_⟩
  · obtain ⟨owner, found, low⟩ := target hash
    obtain ⟨owner', low', found'⟩ := sound.placed hash member
    rw [found, Option.some.injEq] at found'
    exact low.mp (found' ▸ low')
  · have placed : ∀ hash ∈ hashes, ∃ shard < transition.2,
        (placementAfter ringPosition vnodes transition scheme).shardOf hash = some shard := by
      intro hash member
      obtain ⟨owner, found, low⟩ := target hash
      exact ⟨owner, low.mpr (keeps hash member), found⟩
    obtain ⟨counts, moved, done', length, sum⟩ := foldlM_countKey_number hashes
      (List.replicate transition.2 0) 0 (fun hash _ => source hash)
      (by rwa [List.length_replicate])
    rw [List.map_replicate, done, Option.some.injEq] at done'
    subst done'
    refine ⟨placed, counts, rfl, ?_, ?_⟩
    · rw [length, List.length_replicate]
    · rw [sum, List.sum_replicate, smul_zero, Nat.zero_add]

theorem Scheme.mem_all (scheme : Scheme) : scheme ∈ Scheme.all := by
  cases scheme <;> decide

theorem mem_reshardingJobs {transitions : List (Nat × Nat)} {job : (Nat × Nat) × Scheme} :
    job ∈ reshardingJobs transitions ↔ job.1 ∈ transitions := by
  simp only [reshardingJobs, List.mem_flatMap, List.mem_map]
  constructor
  · rintro ⟨transition, listed, scheme, _, rfl⟩
    exact listed
  · intro listed
    exact ⟨job.1, listed, job.2, job.2.mem_all, rfl⟩

section Rows
variable {Job Row : Type}

theorem mapM_some {compute : Job → Option Row} {related : Job → Row → Prop} {jobs : List Job}
    (computes : ∀ job ∈ jobs, ∃ row, compute job = some row ∧ related job row) :
    ∃ rows, jobs.mapM compute = some rows ∧ List.Forall₂ related jobs rows := by
  induction jobs with
  | nil => exact ⟨[], rfl, .nil⟩
  | cons job jobs ih =>
    obtain ⟨row, here, holds⟩ := computes job List.mem_cons_self
    obtain ⟨rows, rest, all⟩ := ih fun other member => computes other (List.mem_cons_of_mem _ member)
    refine ⟨row :: rows, ?_, .cons holds all⟩
    rw [List.mapM_cons, here, rest]
    rfl

theorem exists_related {related : Job → Row → Prop} {jobs : List Job} {rows : List Row}
    (each : List.Forall₂ related jobs rows) {job : Job} (member : job ∈ jobs) :
    ∃ row ∈ rows, related job row := by
  induction each with
  | nil => cases member
  | cons here _ ih =>
    rcases List.mem_cons.mp member with rfl | later
    · exact ⟨_, List.mem_cons_self, here⟩
    · obtain ⟨row, stored, holds⟩ := ih later
      exact ⟨row, List.mem_cons_of_mem _ stored, holds⟩

theorem forall_mem_iff {holds : Row → Prop} {condition : Job → Prop} {jobs : List Job}
    {rows : List Row} (each : List.Forall₂ (fun job row => holds row ↔ condition job) jobs rows) :
    (∀ row ∈ rows, holds row) ↔ ∀ job ∈ jobs, condition job := by
  induction each with
  | nil =>
    constructor
    · exact fun _ job none => absurd none List.not_mem_nil
    · exact fun _ row none => absurd none List.not_mem_nil
  | cons here _ ih => rw [List.forall_mem_cons, List.forall_mem_cons, here, ih]

end Rows

/-- Every job has its row. -/
theorem simulateResharding_rows (ringPosition : Text → UInt32) {transitions : List (Nat × Nat)}
    {vnodes : Nat} (positive : ∀ transition ∈ transitions, 1 ≤ transition.1 ∧ 1 ≤ transition.2)
    (vnode : 1 ≤ vnodes) (hashes : List Nat) :
    ∃ rows, simulateResharding ringPosition transitions hashes vnodes = some rows ∧
      List.Forall₂ (fun job row => reshardingRow ringPosition hashes vnodes job.1 job.2 = some row ∧
        (row.Sound ringPosition vnodes hashes ↔ ∀ hash ∈ hashes, StaysPlaced job.1 job.2 hash))
        (reshardingJobs transitions) rows := by
  apply mapM_some
  intro job member
  obtain ⟨row, done, sound⟩ := reshardingRow_sound ringPosition
    (positive job.1 (mem_reshardingJobs.mp member)) vnode hashes job.2
  exact ⟨row, done, done, sound⟩

/-- Every row is sound exactly when no bucket of a key belonged to a shard that is removed. -/
theorem simulateResharding_sound (ringPosition : Text → UInt32) {transitions : List (Nat × Nat)}
    {vnodes : Nat} (positive : ∀ transition ∈ transitions, 1 ≤ transition.1 ∧ 1 ≤ transition.2)
    (vnode : 1 ≤ vnodes) (hashes : List Nat) :
    ∃ rows, simulateResharding ringPosition transitions hashes vnodes = some rows ∧
      ((∀ row ∈ rows, row.Sound ringPosition vnodes hashes) ↔
        ∀ transition ∈ transitions, ∀ hash ∈ hashes,
          hash % BUCKETS % transition.1 < transition.2) := by
  obtain ⟨rows, done, each⟩ := simulateResharding_rows ringPosition positive vnode hashes
  refine ⟨rows, done, ?_⟩
  rw [forall_mem_iff (each.imp fun _ _ both => both.2)]
  constructor
  · intro keeps transition listed hash key
    have job : (transition, Scheme.virtualBuckets) ∈ reshardingJobs transitions :=
      mem_reshardingJobs.mpr listed
    exact keeps _ job hash key rfl
  · intro low job member hash key _
    exact low job.1 (mem_reshardingJobs.mp member) hash key

/-- Two transitions and two keys; the second transition removes a shard. -/
theorem simulateResharding_sound_shrinking :
    ((∀ transition ∈ [(2, 3), (3, 2)], 1 ≤ transition.1 ∧ 1 ≤ transition.2) ∧ 1 ≤ 1) ∧
    ∃ rows, simulateResharding (fun _ => 7) [(2, 3), (3, 2)] [0, 2] 1 = some rows ∧
      ((∀ row ∈ rows, row.Sound (fun _ => 7) 1 [0, 2]) ↔
        ∀ transition ∈ [(2, 3), (3, 2)], ∀ hash ∈ [0, 2],
          hash % BUCKETS % transition.1 < transition.2) :=
  ⟨by decide, simulateResharding_sound (fun _ => 7) (by decide) (by decide) [0, 2]⟩

/-- From three shards to two, the key of bucket 2 stays on the third: its counter is no number,
and the array of counters has an entry too many. -/
theorem simulateResharding_removed : ∃ rows,
    simulateResharding (fun _ => 7) [(3, 2)] [2] 1 = some rows ∧ ∃ row ∈ rows,
      row.load = [.number 0, .number 0, .notANumber] ∧ ¬ row.Sound (fun _ => 7) 1 [2] := by
  obtain ⟨rows, done, each⟩ := @simulateResharding_rows (fun _ => 7) [(3, 2)] 1 (by decide)
    (by decide) [2]
  refine ⟨rows, done, ?_⟩
  obtain ⟨row, member, computed, sound⟩ := exists_related each
    (mem_reshardingJobs.mpr (List.mem_singleton.mpr rfl) :
      ((3, 2), Scheme.virtualBuckets) ∈ reshardingJobs [(3, 2)])
  refine ⟨row, member, ?_, fun holds => ?_⟩
  · have load : (reshardingRow (fun _ => 7) [2] 1 (3, 2) .virtualBuckets).map ReshardingRow.load =
        some [.number 0, .number 0, .notANumber] := by
      decide +kernel
    rw [computed] at load
    exact Option.some.inj load
  · exact absurd (sound.mp holds 2 List.mem_cons_self rfl) (by decide)

/-- A cluster that grows keeps all its shards, so the row is sound for all keys. -/
theorem reshardingRow_grows (ringPosition : Text → UInt32) {vnodes : Nat} {transition : Nat × Nat}
    (positive : 1 ≤ transition.1) (grows : transition.1 ≤ transition.2) (vnode : 1 ≤ vnodes)
    (hashes : List Nat) (scheme : Scheme) :
    ∃ row, reshardingRow ringPosition hashes vnodes transition scheme = some row ∧
      row.Sound ringPosition vnodes hashes := by
  obtain ⟨row, done, sound⟩ := reshardingRow_sound ringPosition ⟨positive, positive.trans grows⟩
    vnode hashes scheme
  refine ⟨row, done, sound.mpr fun hash _ _ => ?_⟩
  exact (Nat.mod_lt _ positive).trans_le grows

example : ∀ transition ∈ defaultTransitions, 1 ≤ transition.1 ∧ transition.1 ≤ transition.2 := by
  decide

/-- Residues modulo two numbers agree where they are the number itself, within one period. -/
theorem mod_eq_mod_iff {first second hash : Nat} (inside : hash < Nat.lcm first second) :
    hash % first = hash % second ↔ hash < min first second := by
  constructor
  · intro same
    have left : first ∣ hash - hash % first := Nat.dvd_sub_mod hash
    have right : second ∣ hash - hash % first := same ▸ Nat.dvd_sub_mod hash
    have none : hash - hash % first = 0 :=
      Nat.eq_zero_of_dvd_of_lt (Nat.lcm_dvd left right) (by omega)
    have equal : hash = hash % first := by
      have below := Nat.mod_le hash first
      omega
    have positive : 0 < first := Nat.pos_of_ne_zero fun zero => by simp [zero] at inside
    have positive' : 0 < second := Nat.pos_of_ne_zero fun zero => by simp [zero] at inside
    have low := Nat.mod_lt hash positive
    have low' := Nat.mod_lt hash positive'
    omega
  · intro low
    rw [Nat.mod_eq_of_lt (by omega), Nat.mod_eq_of_lt (by omega)]

/-- The keys that the modulo scheme leaves in place, over any period of the two counts. -/
theorem modulo_kept (ringPosition : Text → UInt32) {before after : Nat} (positive : 1 ≤ before)
    (positive' : 1 ≤ after) (vnodes start : Nat) :
    #{hash ∈ Ico start (start + Nat.lcm before after) |
      (placement ringPosition .modulo before vnodes none).shardOf hash =
        (placementAfter ringPosition vnodes (before, after) .modulo).shardOf hash} =
      min before after := by
  have agree : ∀ hash, (placement ringPosition .modulo before vnodes none).shardOf hash =
      (placementAfter ringPosition vnodes (before, after) .modulo).shardOf hash ↔
        hash % before = hash % after := fun hash => Option.some_inj
  simp only [agree]
  have periodic : Function.Periodic (fun hash => hash % before = hash % after)
      (Nat.lcm before after) := by
    intro hash
    obtain ⟨k, left⟩ := Nat.dvd_lcm_left before after
    obtain ⟨l, right⟩ := Nat.dvd_lcm_right before after
    have one : (hash + Nat.lcm before after) % before = hash % before := by
      rw [left, Nat.add_mul_mod_self_left]
    have two : (hash + Nat.lcm before after) % after = hash % after := by
      rw [right, Nat.add_mul_mod_self_left]
    simp only [one, two]
  rw [Nat.filter_Ico_card_eq_of_periodic start _ _ periodic, Nat.count_eq_card_filter_range]
  have period : min before after ≤ Nat.lcm before after :=
    (Nat.min_le_left _ _).trans (Nat.le_of_dvd (Nat.lcm_pos positive positive') (Nat.dvd_lcm_left _ _))
  have kept : {hash ∈ range (Nat.lcm before after) | hash % before = hash % after} =
      range (min before after) := by
    ext hash
    rw [mem_filter, mem_range, mem_range]
    constructor
    · rintro ⟨inside, same⟩
      exact (mod_eq_mod_iff inside).mp same
    · intro low
      have inside := low.trans_le period
      exact ⟨inside, (mod_eq_mod_iff inside).mpr low⟩
  rw [kept, card_range]

/-- From four shards to six, four hashes of any twelve stay. -/
theorem modulo_kept_four : (1 ≤ 4 ∧ 1 ≤ 6) ∧
    #{hash ∈ Ico 100 (100 + Nat.lcm 4 6) |
      (placement (fun _ => 7) .modulo 4 128 none).shardOf hash =
        (placementAfter (fun _ => 7) 128 (4, 6) .modulo).shardOf hash} = min 4 6 :=
  ⟨by decide, modulo_kept (fun _ => 7) (by decide) (by decide) 128 100⟩

end HotelBooking
