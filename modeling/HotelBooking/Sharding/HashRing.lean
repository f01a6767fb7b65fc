import HotelBooking.Ordered.Bisect
import HotelBooking.Sharding.ShardKey

/-! The consistent hashing model of resharding.ts: a ring of virtual nodes, searched for the
first one clockwise from a key. The prefix of MD5 that places a node is any function of its
label. -/
namespace HotelBooking
open Ordered

def decimalText (n : Nat) : Text := (Nat.toDigits 10 n).flatMap codeUnits

/-- The label of a virtual node. -/
def ringLabel (shard v : Nat) : Text :=
  text "shard-" ++ decimalText shard ++ text "#" ++ decimalText v

structure RingPoint where
  hash : Nat
  shard : Nat
  deriving DecidableEq

structure HashRing where
  points : List RingPoint
  vnodes : Nat
  sorted : points.Pairwise fun a b => a.hash ≤ b.hash

/-- The points of the two loops of the constructor, in the order of their insertion. -/
def ringPoints (ringPosition : Text → UInt32) (shardCount vnodes : Nat) : List RingPoint :=
  (List.range shardCount).flatMap fun shard =>
    (List.range vnodes).map fun v => ⟨(ringPosition (ringLabel shard v)).toNat, shard⟩

def byHash (a b : RingPoint) : Bool := a.hash ≤ b.hash

theorem byHash_trans (a b c : RingPoint) (first : byHash a b = true) (second : byHash b c = true) :
    byHash a c = true := by
  simp only [byHash, decide_eq_true_eq] at *
  omega

theorem byHash_total (a b : RingPoint) : (byHash a b || byHash b a) = true := by
  simp only [byHash, Bool.or_eq_true, decide_eq_true_eq]
  omega

namespace HashRing

/-- `Array.prototype.sort` is stable. -/
def build (ringPosition : Text → UInt32) (shardCount vnodes : Nat) : HashRing where
  points := (ringPoints ringPosition shardCount vnodes).mergeSort byHash
  vnodes
  sorted := (List.pairwise_mergeSort byHash_trans byHash_total _).imp of_decide_eq_true

/-- The first virtual node clockwise from a key. An array has far fewer than 2^31 elements, so
`>>> 1` is half the sum. A ring without points has no answer. -/
def shardOf (ring : HashRing) (keyHash : Nat) : Option Nat :=
  let lo := bisect (fun point => point.hash < keyHash) ring.points 0 ring.points.length le_rfl
  ring.points[if lo = ring.points.length then 0 else lo]?.map RingPoint.shard

end HashRing

/-- The order of the ring: by position, and at one position the shards that came first. -/
def RingPoint.Below (a b : RingPoint) : Prop :=
  a.hash ≤ b.hash ∧ (b.hash ≤ a.hash → a.shard ≤ b.shard)

theorem RingPoint.Below.shard_eq {a b : RingPoint} (first : a.Below b) (second : b.Below a) :
    a.shard = b.shard := Nat.le_antisymm (first.2 second.1) (second.2 first.1)

theorem mem_ringPoints {ringPosition : Text → UInt32} {shardCount vnodes : Nat} {point : RingPoint} :
    point ∈ ringPoints ringPosition shardCount vnodes ↔ point.shard < shardCount ∧
      ∃ v < vnodes, point.hash = (ringPosition (ringLabel point.shard v)).toNat := by
  simp only [ringPoints, List.mem_flatMap, List.mem_range, List.mem_map]
  constructor
  · rintro ⟨shard, low, v, small, rfl⟩
    exact ⟨low, v, small, rfl⟩
  · rintro ⟨low, v, small, position⟩
    exact ⟨point.shard, low, v, small, by rw [← position]⟩

theorem ringPoints_ordered (ringPosition : Text → UInt32) (shardCount vnodes : Nat) :
    (ringPoints ringPosition shardCount vnodes).Pairwise fun a b => a.shard ≤ b.shard := by
  rw [ringPoints, List.pairwise_flatMap]
  constructor
  · intro shard _
    rw [List.pairwise_map]
    exact List.pairwise_of_forall fun _ _ => Nat.le_refl shard
  · refine List.pairwise_lt_range.imp fun {first second} earlier => ?_
    intro a left b right
    obtain ⟨_, _, rfl⟩ := List.mem_map.mp left
    obtain ⟨_, _, rfl⟩ := List.mem_map.mp right
    exact Nat.le_of_lt earlier

/-- The point that the ring assigns to a key: the least one that is not before the key, and
the least of all when every point is. -/
structure Nearest (points : List RingPoint) (keyHash : Nat) (point : RingPoint) : Prop where
  member : point ∈ points
  ahead : (∃ other ∈ points, keyHash ≤ other.hash) → keyHash ≤ point.hash
  least : ∀ other ∈ points, (keyHash ≤ point.hash → keyHash ≤ other.hash) → point.Below other

namespace HashRing
variable {ringPosition : Text → UInt32} {shardCount vnodes : Nat}

theorem mem_build {point : RingPoint} :
    point ∈ (build ringPosition shardCount vnodes).points ↔ point.shard < shardCount ∧
      ∃ v < vnodes, point.hash = (ringPosition (ringLabel point.shard v)).toNat := by
  rw [build, List.mem_mergeSort, mem_ringPoints]

theorem build_ordered :
    (build ringPosition shardCount vnodes).points.Pairwise RingPoint.Below := by
  refine (pairwise_mergeSort_stable byHash_trans byHash_total
    (ringPoints_ordered ringPosition shardCount vnodes) fun _ => Nat.le_refl _).imp ?_
  rintro a b ⟨order, tie⟩
  exact ⟨of_decide_eq_true order, fun back => tie (decide_eq_true back)⟩

theorem parted (ring : HashRing) (keyHash : Nat) :
    Parted (fun point => point.hash < keyHash) ring.points := by
  refine ring.sorted.imp fun {a b} order below => ?_
  simp only [decide_eq_true_eq] at *
  omega

/-- The first point that is not before the key, or else the first point of the ring. -/
theorem shardOf_eq (ring : HashRing) (keyHash : Nat) : ring.shardOf keyHash =
    ((ring.points.find? fun point => keyHash ≤ point.hash).or ring.points.head?).map
      RingPoint.shard := by
  have cuts := cuts_bisect (ring.parted keyHash)
  have found := cuts.getElem?
  have ahead : (fun point : RingPoint => !decide (point.hash < keyHash)) =
      fun point => decide (keyHash ≤ point.hash) := by
    funext point
    rw [← decide_not]
    exact decide_eq_decide.mpr Nat.not_lt
  rw [ahead] at found
  unfold shardOf
  dsimp only
  generalize bisect (fun point : RingPoint => decide (point.hash < keyHash)) ring.points 0
    ring.points.length le_rfl = lo at cuts found ⊢
  rw [← found]
  by_cases past : lo = ring.points.length
  · rw [if_pos past, past, List.getElem?_eq_none le_rfl, Option.none_or, List.head?_eq_getElem?]
  · have inside : lo < ring.points.length := Nat.lt_of_le_of_ne cuts.bound past
    rw [if_neg past, List.getElem?_eq_getElem inside, Option.some_or]

theorem shardOf_nearest (ring : HashRing) (keyHash : Nat)
    (ordered : ring.points.Pairwise RingPoint.Below) {member : RingPoint}
    (filled : member ∈ ring.points) :
    ∃ point, Nearest ring.points keyHash point ∧ ring.shardOf keyHash = some point.shard := by
  have reflexive : ∀ a : RingPoint, a.Below a := fun a => ⟨Nat.le_refl _, fun _ => Nat.le_refl _⟩
  rw [shardOf_eq]
  cases found : ring.points.find? fun point => keyHash ≤ point.hash with
  | some point =>
    have here : keyHash ≤ point.hash := by simpa using List.find?_some found
    have least := find?_least ordered reflexive found
    refine ⟨point, ⟨List.mem_of_find?_eq_some found, fun _ => here, ?_⟩, rfl⟩
    exact fun other member same => least other member (decide_eq_true (same here))
  | none =>
    have behind : ∀ other ∈ ring.points, ¬ keyHash ≤ other.hash := by
      simpa only [List.find?_eq_none, decide_eq_true_eq] using found
    cases points : ring.points with
    | nil =>
      rw [points] at filled
      cases filled
    | cons first rest =>
      rw [points] at behind ordered
      refine ⟨first, ⟨List.mem_cons_self, ?_, ?_⟩, rfl⟩
      · rintro ⟨other, member, ahead⟩
        exact absurd ahead (behind other member)
      · intro other member _
        rcases List.mem_cons.mp member with rfl | later
        · exact reflexive _
        · exact (List.pairwise_cons.mp ordered).1 other later

theorem build_stableSort : StableSort byHash (ringPoints ringPosition shardCount vnodes)
    (build ringPosition shardCount vnodes).points :=
  mergeSort_stableSort byHash_trans byHash_total _

theorem mem_build_zero (ringPosition : Text → UInt32) (shard : 1 ≤ shardCount) (vnode : 1 ≤ vnodes) :
    (⟨(ringPosition (ringLabel 0 0)).toNat, 0⟩ : RingPoint) ∈
      (build ringPosition shardCount vnodes).points :=
  mem_build.mpr ⟨shard, 0, vnode, rfl⟩

end HashRing

/-- The search goes clockwise: from the key to the next point, and from the last one to the
first. -/
theorem shardOf_clockwise (ringPosition : Text → UInt32) {shardCount vnodes : Nat}
    (shard : 1 ≤ shardCount) (vnode : 1 ≤ vnodes) (keyHash : Nat) :
    ∃ points, StableSort byHash (ringPoints ringPosition shardCount vnodes) points ∧
      ∃ point ∈ points,
        (HashRing.build ringPosition shardCount vnodes).shardOf keyHash = some point.shard ∧
        (points.find? (fun other => keyHash ≤ other.hash) = some point ∨
          (∀ other ∈ points, other.hash < keyHash) ∧ points.head? = some point) := by
  refine ⟨_, HashRing.build_stableSort, ?_⟩
  have filled := HashRing.mem_build_zero ringPosition shard vnode
  rw [HashRing.shardOf_eq]
  generalize (HashRing.build ringPosition shardCount vnodes).points = points at filled ⊢
  cases found : points.find? fun other => keyHash ≤ other.hash with
  | some point => exact ⟨point, List.mem_of_find?_eq_some found, rfl, Or.inl rfl⟩
  | none =>
    have behind : ∀ other ∈ points, other.hash < keyHash := by
      simpa only [List.find?_eq_none, decide_eq_true_eq, Nat.not_le] using found
    cases points with
    | nil => cases filled
    | cons first rest => exact ⟨first, List.mem_cons_self, rfl, Or.inr ⟨behind, rfl⟩⟩

/-- Two shards of two nodes each, all at the position 7; the key 8 is past them. -/
theorem shardOf_clockwise_wraps :
    (1 ≤ 2 ∧ 1 ≤ 2) ∧ ∃ points, StableSort byHash (ringPoints (fun _ => 7) 2 2) points ∧
      ∃ point ∈ points, (HashRing.build (fun _ => 7) 2 2).shardOf 8 = some point.shard ∧
        (points.find? (fun other => 8 ≤ other.hash) = some point ∨
          (∀ other ∈ points, other.hash < 8) ∧ points.head? = some point) :=
  ⟨by decide, shardOf_clockwise (fun _ => 7) (by decide) (by decide) 8⟩

/-- A point of the smaller ring that the larger one assigns is the one that the smaller one
assigns, as far as its shard. -/
theorem Nearest.shard_eq {old new : List RingPoint} {keyHash : Nat} {before after : RingPoint}
    (nearest : Nearest old keyHash before) (nearest' : Nearest new keyHash after)
    (kept : after ∈ old) (grows : ∀ point ∈ old, point ∈ new) : after.shard = before.shard := by
  have ahead : keyHash ≤ before.hash ↔ keyHash ≤ after.hash := by
    constructor
    · exact fun here => nearest'.ahead ⟨before, grows before nearest.member, here⟩
    · exact fun here => nearest.ahead ⟨after, kept, here⟩
  have first := nearest.least after kept ahead.mp
  have second := nearest'.least before (grows before nearest.member) ahead.mpr
  exact second.shard_eq first

/-- Adding shards moves a key to one of them or not at all. -/
theorem shardOf_monotone (ringPosition : Text → UInt32) {vnodes n m : Nat} (vnode : 1 ≤ vnodes)
    (shard : 1 ≤ n) (grows : n ≤ m) (keyHash : Nat) :
    ∃ before after, (HashRing.build ringPosition n vnodes).shardOf keyHash = some before ∧
      (HashRing.build ringPosition m vnodes).shardOf keyHash = some after ∧
        (after = before ∨ n ≤ after) := by
  obtain ⟨before, nearest, old⟩ := HashRing.shardOf_nearest _ keyHash HashRing.build_ordered
    (HashRing.mem_build_zero ringPosition shard vnode)
  obtain ⟨after, nearest', new⟩ := HashRing.shardOf_nearest _ keyHash HashRing.build_ordered
    (HashRing.mem_build_zero ringPosition (shard.trans grows) vnode)
  refine ⟨before.shard, after.shard, old, new, ?_⟩
  by_cases low : after.shard < n
  · left
    refine nearest.shard_eq nearest' (HashRing.mem_build.mpr ⟨low, ?_⟩) fun point member => ?_
    · exact (HashRing.mem_build.mp nearest'.member).2
    · obtain ⟨below, placed⟩ := HashRing.mem_build.mp member
      exact HashRing.mem_build.mpr ⟨below.trans_le grows, placed⟩
  · exact Or.inr (Nat.le_of_not_lt low)

/-- All nodes at one position: the tie goes to the shard that was there first. -/
theorem shardOf_monotone_tied :
    (1 ≤ 2 ∧ 1 ≤ 1 ∧ 1 ≤ 2) ∧ ∃ before after,
      (HashRing.build (fun _ => 7) 1 2).shardOf 7 = some before ∧
        (HashRing.build (fun _ => 7) 2 2).shardOf 7 = some after ∧ (after = before ∨ 1 ≤ after) :=
  ⟨by decide, shardOf_monotone (fun _ => 7) (by decide) (by decide) (by decide) 7⟩

end HotelBooking
