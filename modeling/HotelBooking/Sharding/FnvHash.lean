import HotelBooking.Sharding.ShardKey
import Mathlib.Algebra.Ring.Nat
import Mathlib.Data.Fintype.EquivFin
import Mathlib.Tactic.Common

/-! The hash of shard-key.ts against its published definition, and its low six bits, which are
all that a bucket depends on. -/
namespace HotelBooking

/-- Steps that permute the states do so however many follow each other. -/
theorem foldl_bijective {State Input : Type} {step : State → Input → State}
    (permutes : ∀ input, Function.Bijective fun state => step state input) (rest : List Input) :
    Function.Bijective fun state => rest.foldl step state := by
  induction rest with
  | nil => exact Function.bijective_id
  | cons input rest ih => exact ih.comp (permutes input)

/-- FNV-1a on unsigned numbers. -/
def fnv1aUnsigned (input : Text) : Nat :=
  input.foldl (fun hash unit => (hash ^^^ unit.toNat) * 16777619 % 2 ^ 32) 2166136261

/-- A round on signed values has the bits of the round on unsigned ones. -/
theorem fnv1a_round (hash : Int32) (unit : UInt16) :
    ((hash ^^^ unit.toUInt32.toInt32) * 0x01000193).toUInt32.toNat =
      (hash.toUInt32.toNat ^^^ unit.toNat) * 16777619 % 2 ^ 32 := by
  rw [Int32.toUInt32_mul, Int32.toUInt32_xor, UInt32.toNat_mul, UInt32.toNat_xor]
  rfl

theorem fnv1a_rounds (input : Text) (hash : Int32) :
    (input.foldl (fun (hash : Int32) unit => (hash ^^^ unit.toUInt32.toInt32) * 0x01000193)
      hash).toUInt32.toNat =
    input.foldl (fun hash unit => (hash ^^^ unit.toNat) * 16777619 % 2 ^ 32) hash.toUInt32.toNat := by
  induction input generalizing hash with
  | nil => rfl
  | cons unit input ih => rw [List.foldl_cons, List.foldl_cons, ih, fnv1a_round]

theorem fnv1a_eq_unsigned (input : Text) : fnv1a input = fnv1aUnsigned input :=
  fnv1a_rounds input _

theorem fnv1a_lt (input : Text) : fnv1a input < 2 ^ 32 := UInt32.toNat_lt _

/-- The part of a code unit that the bucket depends on. -/
def residue (unit : UInt16) : Fin BUCKETS := ⟨unit.toNat % BUCKETS, Nat.mod_lt _ (by decide)⟩

def fnvBucket (input : Text) : Fin BUCKETS := ⟨fnv1a input % BUCKETS, Nat.mod_lt _ (by decide)⟩

/-- A round of the hash on the low six bits: 19 is what they keep of the factor. -/
def mixLow (state unit : Fin BUCKETS) : Fin BUCKETS :=
  ⟨(state.val ^^^ unit.val) * 19 % BUCKETS, Nat.mod_lt _ (by decide)⟩

/-- The low six bits of the number that the hash starts from. -/
def lowBasis : Fin BUCKETS := ⟨2166136261 % BUCKETS, Nat.mod_lt _ (by decide)⟩

theorem mixLow_comm (state unit : Fin BUCKETS) : mixLow state unit = mixLow unit state := by
  rw [mixLow, mixLow, Fin.mk.injEq, Nat.xor_comm]

/-- 27 is the inverse of 19, so a round can be undone. -/
theorem mixLow_undo (state unit : Fin BUCKETS) :
    ((mixLow state unit).val * 27 % BUCKETS) ^^^ unit.val = state.val := by
  have small : state.val ^^^ unit.val < 2 ^ 6 := Nat.xor_lt_two_pow state.isLt unit.isLt
  have inverse : (mixLow state unit).val * 27 % BUCKETS = state.val ^^^ unit.val := by
    simp only [mixLow, BUCKETS]
    omega
  rw [inverse, Nat.xor_assoc, Nat.xor_self, Nat.xor_zero]

theorem mixLow_bijective (unit : Fin BUCKETS) :
    Function.Bijective fun state => mixLow state unit := by
  apply Finite.injective_iff_bijective.mp
  intro first second same
  dsimp only at same
  apply Fin.ext
  rw [← mixLow_undo first unit, ← mixLow_undo second unit, same]

/-- The low six bits of a round depend on the low six bits of what it mixes. -/
theorem round_low (hash unit : Nat) : (hash ^^^ unit) * 16777619 % 2 ^ 32 % BUCKETS =
    ((hash % BUCKETS) ^^^ (unit % BUCKETS)) * 19 % BUCKETS := by
  have low : (hash ^^^ unit) % 2 ^ 6 = (hash % 2 ^ 6) ^^^ (unit % 2 ^ 6) := Nat.xor_mod_two_pow
  change (hash ^^^ unit) * 16777619 % 2 ^ 32 % 2 ^ 6 =
    ((hash % 2 ^ 6) ^^^ (unit % 2 ^ 6)) * 19 % 2 ^ 6
  rw [← low]
  omega

theorem foldl_low (input : Text) (hash : Nat) (state : Fin BUCKETS) (same : hash % BUCKETS = state) :
    input.foldl (fun hash unit => (hash ^^^ unit.toNat) * 16777619 % 2 ^ 32) hash % BUCKETS =
      (input.map residue).foldl mixLow state := by
  induction input generalizing hash state with
  | nil => exact same
  | cons unit input ih =>
    rw [List.map_cons, List.foldl_cons, List.foldl_cons]
    apply ih
    rw [round_low, same]
    rfl

/-- The bucket of a string is a fold over the residues of its code units. -/
theorem fnvBucket_eq (input : Text) :
    fnvBucket input = (input.map residue).foldl mixLow lowBasis := by
  apply Fin.ext
  change fnv1a input % BUCKETS = _
  rw [fnv1a_eq_unsigned]
  exact foldl_low input _ _ rfl

theorem residue_surjective : Function.Surjective residue := by
  intro low
  have small : low.val < 64 := low.isLt
  refine ⟨UInt16.ofNat low.val, Fin.ext ?_⟩
  change low.val % 2 ^ 16 % 64 = low.val
  omega

/-- The bucket as a function of the residue at one position. -/
theorem fnvBucket_set (input : Text) (i : Fin input.length) :
    ∃ bucket : Fin BUCKETS → Fin BUCKETS, Function.Bijective bucket ∧
      ∀ unit, fnvBucket (input.set i unit) = bucket (residue unit) := by
  refine ⟨fun low => ((input.drop (i + 1)).map residue).foldl mixLow
    (mixLow (((input.take i).map residue).foldl mixLow lowBasis) low), ?_, fun unit => ?_⟩
  · refine (foldl_bijective mixLow_bijective _).comp ?_
    rw [funext (mixLow_comm (((input.take i).map residue).foldl mixLow lowBasis))]
    exact mixLow_bijective _
  · rw [fnvBucket_eq, List.set_eq_take_append_cons_drop, if_pos i.isLt, List.map_append,
      List.foldl_append, List.map_cons, List.foldl_cons]

/-- Each position of a string reaches all buckets, one for each residue. -/
theorem fnv1a_spreads (input : Text) :
    (∀ other : Text, other.map residue = input.map residue →
      fnv1a other % BUCKETS = fnv1a input % BUCKETS) ∧
    ∀ i : Fin input.length,
      (∃ bucket : Fin BUCKETS → Fin BUCKETS, Function.Bijective bucket ∧
        ∀ unit, fnv1a (input.set i unit) % BUCKETS = bucket (residue unit)) ∧
      (∀ first second, residue first ≠ residue second →
        fnv1a (input.set i first) % BUCKETS ≠ fnv1a (input.set i second) % BUCKETS) ∧
      ∀ bucket < BUCKETS, ∃ unit, fnv1a (input.set i unit) % BUCKETS = bucket := by
  constructor
  · intro other same
    have equal : fnvBucket other = fnvBucket input := by rw [fnvBucket_eq, fnvBucket_eq, same]
    exact congrArg Fin.val equal
  · intro i
    obtain ⟨bucket, bijective, reads⟩ := fnvBucket_set input i
    have value : ∀ unit, fnv1a (input.set i unit) % BUCKETS = bucket (residue unit) :=
      fun unit => congrArg Fin.val (reads unit)
    refine ⟨⟨bucket, bijective, value⟩, fun first second different same => ?_, fun target low => ?_⟩
    · rw [value, value] at same
      exact different (bijective.injective (Fin.ext same))
    · obtain ⟨low', here⟩ := bijective.surjective ⟨target, low⟩
      obtain ⟨unit, rfl⟩ := residue_surjective low'
      exact ⟨unit, by rw [value, here]⟩

end HotelBooking
