import HotelBooking.Sharding.FnvHash
import HotelBooking.Sharding.HashRing
import HotelBooking.Sharding.Rebalance
import HotelBooking.Sharding.ShardRouter
import Mathlib.Data.List.Induction
import Mathlib.Data.List.TakeWhile
import Mathlib.Data.Nat.Log

/-! SHARD_BUCKET_MAP: a list of fragments `first-last:shard`, the later ones over the earlier.
The reader of one fragment is proved against its regular expression. -/
namespace HotelBooking

def comma : UInt16 := 44
def dash : UInt16 := 45
def colon : UInt16 := 58

def isDigit (unit : UInt16) : Bool := 48 ≤ unit && unit ≤ 57

def digitsValue (digits : Text) : Nat :=
  digits.foldl (fun value unit => 10 * value + (unit.toNat - 48)) 0

/-- The nearest number of 53 significant bits, and of two the even one. -/
def roundToDouble (n : Nat) : Nat :=
  let ulp := 2 ^ (n.log2 - 52)
  let low := n / ulp
  if 2 * (n % ulp) < ulp ∨ 2 * (n % ulp) = ulp ∧ low % 2 = 0 then low * ulp else (low + 1) * ulp

/-- `Number` of a string of digits. A value so large that it would be Infinity is, like
Infinity, above every number of shards. -/
def toNumber (digits : Text) : Nat := roundToDouble (digitsValue digits)

/-- The groups of a match. -/
structure FragmentMatch where
  first : Text
  last : Option Text
  shard : Text
  deriving DecidableEq

/-- `\d+`, as many digits as there are, and the rest of the input. -/
def digits? (input : Text) : Option (Text × Text) :=
  if input.takeWhile isDigit = [] then none
  else some (input.takeWhile isDigit, input.dropWhile isDigit)

def unit? (unit : UInt16) : Text → Option Text
  | [] => none
  | head :: rest => if head = unit then some rest else none

/-- `(?:-(\d+))?`. A colon has to follow it, so a dash without digits is no match. -/
def last? (input : Text) : Option (Option Text × Text) :=
  match unit? dash input with
  | none => some (none, input)
  | some rest => do
    let (last, rest) ← digits? rest
    return (some last, rest)

/-- `/^(\d+)(?:-(\d+))?:(\d+)$/`. No digit is a dash or a colon, so nothing is tried twice. -/
def matchFragment (input : Text) : Option FragmentMatch := do
  let (first, rest) ← digits? input
  let (last, rest) ← last? rest
  let rest ← unit? colon rest
  let (shard, rest) ← digits? rest
  if rest = [] then some ⟨first, last, shard⟩ else none

structure Fragment where
  first : Nat
  last : Nat
  shard : Nat
  deriving DecidableEq

def FragmentMatch.numbers (found : FragmentMatch) : Fragment :=
  ⟨toNumber found.first, toNumber (found.last.getD found.first), toNumber found.shard⟩

/-- One round of the loop over the fragments. The inner loop writes every bucket of the range. -/
def applyFragment (shardCount : Nat) (map : BucketMap) (part : Text) : Except Text BucketMap :=
  match matchFragment (trim part) with
  | none => .error (text "SHARD_BUCKET_MAP: некоректний фрагмент \"" ++ part ++ text "\"")
  | some found =>
    let ⟨first, last, shard⟩ := found.numbers
    if last < first ∨ BUCKETS ≤ last ∨ shardCount ≤ shard then
      .error (text "SHARD_BUCKET_MAP: \"" ++ part ++ text "\" виходить за межі (бакети 0.." ++
        decimalText (BUCKETS - 1) ++ text ", шарди 0.." ++ decimalText (shardCount - 1) ++ text ")")
    else .ok fun bucket => if first ≤ bucket ∧ bucket ≤ last then shard else map bucket

/-- `buildBucketMap` with its second argument. -/
def buildBucketMapFrom (shardCount : Nat) (spec : Option Text) : Except Text BucketMap :=
  match spec with
  | none => .ok (buildBucketMap shardCount)
  | some spec =>
    if trim spec = [] then .ok (buildBucketMap shardCount)
    else (spec.splitOn comma).foldlM (applyFragment shardCount) (buildBucketMap shardCount)

example : (buildBucketMapFrom 2 (some (text "0-62:0,63:1"))).map
    (fun map => (map ⟨0, by decide⟩, map ⟨63, by decide⟩)) = .ok (0, 1) := by
  decide +kernel

section Numbers

theorem roundToDouble_of_lt {n : Nat} (small : n < 2 ^ 53) : roundToDouble n = n := by
  have bits : n.log2 - 52 = 0 := by
    by_cases zero : n = 0
    · subst zero
      rfl
    · have below := (Nat.log2_lt zero).mpr small
      omega
  unfold roundToDouble
  rw [bits]
  simp [Nat.mod_one]

theorem le_roundToDouble {n : Nat} (large : 2 ^ 53 ≤ n) : 2 ^ 53 ≤ roundToDouble n := by
  have nonzero : n ≠ 0 := by omega
  have bits : 53 ≤ n.log2 := (Nat.le_log2 nonzero).mpr large
  have below : 2 ^ n.log2 ≤ n := Nat.log2_self_le nonzero
  have whole : 2 ^ 52 * 2 ^ (n.log2 - 52) = 2 ^ n.log2 := by
    rw [← Nat.pow_add]
    congr 1
    omega
  have low : 2 ^ 52 ≤ n / 2 ^ (n.log2 - 52) := by
    rw [Nat.le_div_iff_mul_le (Nat.two_pow_pos _), whole]
    exact below
  have enough : 2 ^ 53 ≤ n / 2 ^ (n.log2 - 52) * 2 ^ (n.log2 - 52) :=
    calc 2 ^ 53 ≤ 2 ^ n.log2 := Nat.pow_le_pow_right Nat.two_pos bits
      _ = 2 ^ 52 * 2 ^ (n.log2 - 52) := whole.symm
      _ ≤ n / 2 ^ (n.log2 - 52) * 2 ^ (n.log2 - 52) := Nat.mul_le_mul_right _ low
  unfold roundToDouble
  dsimp only
  split
  · exact enough
  · exact enough.trans (Nat.mul_le_mul_right _ (Nat.le_succ _))

theorem toNumber_of_lt {digits : Text} (small : digitsValue digits < 2 ^ 53) :
    toNumber digits = digitsValue digits := roundToDouble_of_lt small

/-- Against a bound up to 2^53 a number compares as the digits do. -/
theorem toNumber_lt_iff {digits : Text} {bound : Nat} (small : bound ≤ 2 ^ 53) :
    toNumber digits < bound ↔ digitsValue digits < bound := by
  by_cases precise : digitsValue digits < 2 ^ 53
  · rw [toNumber_of_lt precise]
  · have large := le_roundToDouble (Nat.le_of_not_lt precise)
    unfold toNumber
    omega

end Numbers

/-- A string of one or more digits. -/
structure Digits (digits : Text) : Prop where
  some_ : digits ≠ []
  all : ∀ unit ∈ digits, isDigit unit = true

/-- The fragment as its groups write it. -/
def FragmentMatch.written (found : FragmentMatch) : Text :=
  found.first ++ (found.last.elim [] (dash :: ·) ++ colon :: found.shard)

/-- What the regular expression says of its groups. -/
structure FragmentMatch.Form (found : FragmentMatch) : Prop where
  first : Digits found.first
  last : ∀ last ∈ found.last, Digits last
  shard : Digits found.shard

section Match

theorem digits?_append {digits rest : Text} (form : Digits digits)
    (stops : ∀ unit ∈ rest.head?, isDigit unit = false) :
    digits? (digits ++ rest) = some (digits, rest) := by
  have taken : rest.takeWhile isDigit = [] ∧ rest.dropWhile isDigit = rest := by
    cases rest with
    | nil => exact ⟨rfl, rfl⟩
    | cons unit rest =>
      have stop := stops unit rfl
      rw [List.takeWhile_cons, List.dropWhile_cons, stop]
      exact ⟨rfl, rfl⟩
  rw [digits?, List.takeWhile_append_of_pos form.all, List.dropWhile_append_of_pos form.all,
    taken.1, taken.2, List.append_nil, if_neg form.some_]

theorem digits?_sound {input digits rest : Text} (read : digits? input = some (digits, rest)) :
    Digits digits ∧ input = digits ++ rest := by
  unfold digits? at read
  split at read
  · cases read
  · next taken =>
    rw [Option.some.injEq, Prod.mk.injEq] at read
    obtain ⟨rfl, rfl⟩ := read
    constructor
    · exact ⟨taken, fun unit member => List.mem_takeWhile_imp member⟩
    · exact List.takeWhile_append_dropWhile.symm

theorem unit?_eq_some {unit : UInt16} {input rest : Text} :
    unit? unit input = some rest ↔ input = unit :: rest := by
  cases input with
  | nil => simp [unit?]
  | cons head tail =>
    by_cases same : head = unit
    · simp [unit?, same]
    · simp [unit?, same]

theorem last?_sound {input rest : Text} {last : Option Text} (read : last? input = some (last, rest)) :
    (∀ digits ∈ last, Digits digits) ∧ input = last.elim [] (dash :: ·) ++ rest := by
  unfold last? at read
  cases dashed : unit? dash input with
  | none =>
    rw [dashed] at read
    cases read
    constructor
    · rintro _ ⟨⟩
    · rfl
  | some tail =>
    rw [dashed] at read
    obtain ⟨⟨digits, after⟩, here, done⟩ := Option.bind_eq_some_iff.mp read
    cases done
    obtain ⟨form, split⟩ := digits?_sound here
    constructor
    · rintro _ ⟨⟩
      exact form
    · rw [unit?_eq_some.mp dashed, split]
      rfl

/-- The reader finds exactly the groups that the expression allows. -/
theorem matchFragment_eq_some {input : Text} {found : FragmentMatch} :
    matchFragment input = some found ↔ found.Form ∧ input = found.written := by
  constructor
  · intro read
    obtain ⟨⟨first, rest⟩, start, read⟩ := Option.bind_eq_some_iff.mp read
    obtain ⟨⟨last, rest'⟩, range, read⟩ := Option.bind_eq_some_iff.mp read
    obtain ⟨tail, separator, read⟩ := Option.bind_eq_some_iff.mp read
    obtain ⟨⟨shard, rest''⟩, target, read⟩ := Option.bind_eq_some_iff.mp read
    dsimp only at range separator target read
    split at read
    · next done =>
      cases read
      subst done
      obtain ⟨form, split⟩ := digits?_sound start
      obtain ⟨form', split'⟩ := last?_sound range
      obtain ⟨form'', split''⟩ := digits?_sound target
      refine ⟨⟨form, form', form''⟩, ?_⟩
      rw [split, split', unit?_eq_some.mp separator, split'', List.append_nil]
      rfl
    · cases read
  · rintro ⟨form, rfl⟩
    obtain ⟨first, last, shard⟩ := found
    have target : digits? shard = some (shard, []) := by
      have read : digits? (shard ++ []) = some (shard, []) :=
        digits?_append form.shard (by rintro _ ⟨⟩)
      rwa [List.append_nil] at read
    cases last with
    | none =>
      have start : digits? (first ++ colon :: shard) = some (first, colon :: shard) :=
        digits?_append form.first (by rintro _ ⟨⟩; rfl)
      simp [matchFragment, FragmentMatch.written, start, last?, unit?, target, colon, dash] at *
    | some last =>
      have start : digits? (first ++ dash :: (last ++ colon :: shard)) =
          some (first, dash :: (last ++ colon :: shard)) :=
        digits?_append form.first (by rintro _ ⟨⟩; rfl)
      have range : digits? (last ++ colon :: shard) = some (last, colon :: shard) :=
        digits?_append (form.last last rfl) (by rintro _ ⟨⟩; rfl)
      simp [matchFragment, FragmentMatch.written, start, range, last?, unit?, target] at *

end Match

/-- A part of the specification between two commas, with blanks around it, and what it says. -/
def Denotes (part : Text) (fragment : Fragment) : Prop :=
  ∃ found : FragmentMatch, found.Form ∧ trim part = found.written ∧ fragment = found.numbers

/-- A range of buckets and the number of a shard. -/
structure Fragment.Fits (shardCount : Nat) (fragment : Fragment) : Prop where
  order : fragment.first ≤ fragment.last
  range : fragment.last < BUCKETS
  shard : fragment.shard < shardCount

def Fragment.Covers (fragment : Fragment) (bucket : Fin BUCKETS) : Prop :=
  fragment.first ≤ bucket ∧ bucket ≤ fragment.last

instance (fragment : Fragment) (bucket : Fin BUCKETS) : Decidable (fragment.Covers bucket) :=
  inferInstanceAs (Decidable (_ ∧ _))

/-- The shard of a bucket is that of the last part that covers it, and by default the bucket
modulo the number of shards. -/
def Assigns (shardCount : Nat) (parts : List Text) (bucket : Fin BUCKETS) (shard : Nat) : Prop :=
  (∃ earlier part later fragment, parts = earlier ++ part :: later ∧ Denotes part fragment ∧
      fragment.Covers bucket ∧ shard = fragment.shard ∧
      ∀ other ∈ later, ∀ fragment, Denotes other fragment → ¬ fragment.Covers bucket) ∨
    (∀ part ∈ parts, ∀ fragment, Denotes part fragment → ¬ fragment.Covers bucket) ∧
      shard = bucket % shardCount

theorem denotes_iff {part : Text} {fragment : Fragment} : Denotes part fragment ↔
    ∃ found, matchFragment (trim part) = some found ∧ fragment = found.numbers := by
  constructor
  · rintro ⟨found, form, written, numbers⟩
    exact ⟨found, matchFragment_eq_some.mpr ⟨form, written⟩, numbers⟩
  · rintro ⟨found, matched, numbers⟩
    obtain ⟨form, written⟩ := matchFragment_eq_some.mp matched
    exact ⟨found, form, written, numbers⟩

theorem Denotes.unique {part : Text} {first second : Fragment} (one : Denotes part first)
    (two : Denotes part second) : first = second := by
  obtain ⟨found, matched, rfl⟩ := denotes_iff.mp one
  obtain ⟨found', matched', rfl⟩ := denotes_iff.mp two
  rw [matched, Option.some.injEq] at matched'
  rw [matched']

section Apply
variable {shardCount : Nat} {map next : BucketMap} {part : Text} {parts : List Text}

/-- What one round of the loop can do. -/
theorem applyFragment_cases (shardCount : Nat) (map : BucketMap) (part : Text) :
    (∃ fragment, Denotes part fragment ∧ fragment.Fits shardCount ∧
      applyFragment shardCount map part =
        .ok fun bucket => if fragment.Covers bucket then fragment.shard else map bucket) ∨
    (¬ ∃ fragment, Denotes part fragment ∧ fragment.Fits shardCount) ∧
      ∃ message, applyFragment shardCount map part = .error message := by
  unfold applyFragment
  cases matched : matchFragment (trim part) with
  | none =>
    right
    refine ⟨?_, _, rfl⟩
    rintro ⟨fragment, denotes, _⟩
    obtain ⟨found, matched', _⟩ := denotes_iff.mp denotes
    rw [matched] at matched'
    cases matched'
  | some found =>
    have denotes : Denotes part found.numbers := denotes_iff.mpr ⟨found, matched, rfl⟩
    dsimp only
    split
    · next outside =>
      right
      refine ⟨?_, _, rfl⟩
      rintro ⟨fragment, denotes', fits⟩
      obtain rfl := denotes.unique denotes'
      have order := fits.order
      have range := fits.range
      have shard := fits.shard
      omega
    · next inside =>
      left
      exact ⟨found.numbers, denotes, ⟨by omega, by omega, by omega⟩, rfl⟩

theorem applyFragment_ok (done : applyFragment shardCount map part = .ok next) :
    ∃ fragment, Denotes part fragment ∧ fragment.Fits shardCount ∧
      ∀ bucket, next bucket = if fragment.Covers bucket then fragment.shard else map bucket := by
  obtain ⟨fragment, denotes, fits, same⟩ | ⟨_, message, failed⟩ :=
    applyFragment_cases shardCount map part
  · rw [same] at done
    cases done
    exact ⟨fragment, denotes, fits, fun bucket => rfl⟩
  · rw [failed] at done
    cases done

theorem foldlM_concat_ok {last : Text}
    (done : (parts ++ [last]).foldlM (applyFragment shardCount) map = .ok next) :
    ∃ middle, parts.foldlM (applyFragment shardCount) map = .ok middle ∧
      applyFragment shardCount middle last = .ok next := by
  rw [List.foldlM_append] at done
  cases first : parts.foldlM (applyFragment shardCount) map with
  | error message =>
    rw [first] at done
    cases done
  | ok middle =>
    refine ⟨middle, rfl, ?_⟩
    cases applied : applyFragment shardCount middle last with
    | error message => simp [first, applied, bind, Except.bind] at done
    | ok last => simpa [first, applied, bind, Except.bind, pure, Except.pure] using done

/-- The loop over the parts assigns the buckets, the later parts over the earlier. -/
theorem foldlM_assigns (positive : 1 ≤ shardCount)
    (done : parts.foldlM (applyFragment shardCount) (buildBucketMap shardCount) = .ok next) :
    ∀ bucket, next bucket < shardCount ∧ Assigns shardCount parts bucket (next bucket) := by
  induction parts using List.reverseRecOn generalizing next with
  | nil =>
    cases done
    intro bucket
    exact ⟨Nat.mod_lt _ positive, Or.inr ⟨fun part none => absurd none List.not_mem_nil, rfl⟩⟩
  | append_singleton parts part ih =>
    obtain ⟨middle, before, last⟩ := foldlM_concat_ok done
    obtain ⟨fragment, denotes, fits, same⟩ := applyFragment_ok last
    intro bucket
    obtain ⟨low, assigns⟩ := ih before bucket
    rw [same bucket]
    by_cases covers : fragment.Covers bucket
    · rw [if_pos covers]
      refine ⟨fits.shard, Or.inl ⟨parts, part, [], fragment, rfl, denotes, covers, rfl, ?_⟩⟩
      exact fun other none => absurd none List.not_mem_nil
    · rw [if_neg covers]
      have passes : ∀ other, Denotes part other → ¬ other.Covers bucket := by
        intro other denotes'
        rwa [← denotes.unique denotes']
      refine ⟨low, ?_⟩
      rcases assigns with ⟨earlier, winner, later, other, rfl, reads, here, value, after⟩ | ⟨nowhere, value⟩
      · refine Or.inl ⟨earlier, winner, later ++ [part], other, by simp, reads, here, value, ?_⟩
        intro candidate member
        rcases List.mem_append.mp member with old | new
        · exact after candidate old
        · rw [List.mem_singleton.mp new]
          exact passes
      · refine Or.inr ⟨fun candidate member => ?_, value⟩
        rcases List.mem_append.mp member with old | new
        · exact nowhere candidate old
        · rw [List.mem_singleton.mp new]
          exact passes

/-- The loop fails at the first part that does not fit. -/
theorem foldlM_error_iff (map : BucketMap) :
    (∃ message, parts.foldlM (applyFragment shardCount) map = .error message) ↔
      ∃ part ∈ parts, ¬ ∃ fragment, Denotes part fragment ∧ fragment.Fits shardCount := by
  induction parts generalizing map with
  | nil =>
    constructor
    · rintro ⟨message, ⟨⟩⟩
    · rintro ⟨part, ⟨⟩, _⟩
  | cons part parts ih =>
    rw [List.foldlM_cons, List.exists_mem_cons_iff]
    obtain ⟨fragment, denotes, fits, same⟩ | ⟨unfit, message, failed⟩ :=
      applyFragment_cases shardCount map part
    · rw [same]
      change (∃ message, parts.foldlM (applyFragment shardCount) _ = .error message) ↔ _
      rw [ih]
      constructor
      · exact Or.inr
      · rintro (unfit | later)
        · exact absurd ⟨fragment, denotes, fits⟩ unfit
        · exact later
    · rw [failed]
      constructor
      · exact fun _ => Or.inl unfit
      · exact fun _ => ⟨message, rfl⟩

end Apply

theorem not_digits_nil (part : Text) (blank : trim part = []) (fragment : Fragment) :
    ¬ Denotes part fragment := by
  rintro ⟨found, form, written, _⟩
  rw [blank] at written
  have empty : found.first = [] := (List.append_eq_nil_iff.mp written.symm).1
  exact form.first.some_ empty

/-- An accepted specification gives every bucket a shard that exists. -/
theorem buildBucketMapFrom_lt {shardCount : Nat} {spec : Option Text} {map : BucketMap}
    (positive : 1 ≤ shardCount) (accepted : buildBucketMapFrom shardCount spec = .ok map)
    (bucket : Fin BUCKETS) : map bucket < shardCount := by
  cases spec with
  | none =>
    cases accepted
    exact Nat.mod_lt _ positive
  | some spec =>
    simp only [buildBucketMapFrom] at accepted
    split at accepted
    · cases accepted
      exact Nat.mod_lt _ positive
    · exact (foldlM_assigns positive accepted bucket).1

theorem isBlank_of_trim {input : Text} (blank : trim input = []) :
    ∀ unit ∈ input, isBlank unit = true := by
  have rest : ∀ unit ∈ input.dropWhile isBlank, isBlank unit = true := by
    have reversed := List.dropWhile_eq_nil_iff.mp (List.reverse_eq_nil_iff.mp blank)
    exact fun unit member => reversed unit (List.mem_reverse.mpr member)
  rw [← List.dropWhile_eq_nil_iff]
  by_contra filled
  have head := List.head_dropWhile_not isBlank filled
  rw [rest _ (List.head_mem filled)] at head
  cases head

theorem splitOn_blank {spec : Text} (blank : trim spec = []) : spec.splitOn comma = [spec] := by
  rw [List.splitOn_eq_splitOnP]
  apply List.splitOnP_eq_singleton
  intro unit member
  rw [beq_eq_false_iff_ne]
  rintro rfl
  have blanks := isBlank_of_trim blank comma member
  revert blanks
  decide

/-- What is refused, and what an accepted specification says of each bucket. -/
theorem buildBucketMapFrom_exact {shardCount : Nat} (positive : 1 ≤ shardCount) (spec : Text) :
    ((∃ message, buildBucketMapFrom shardCount (some spec) = .error message) ↔
      trim spec ≠ [] ∧ ∃ part ∈ spec.splitOn comma,
        ¬ ∃ fragment, Denotes part fragment ∧ fragment.Fits shardCount) ∧
    ∀ map, buildBucketMapFrom shardCount (some spec) = .ok map → ∀ bucket,
      map bucket < shardCount ∧ Assigns shardCount (spec.splitOn comma) bucket (map bucket) := by
  simp only [buildBucketMapFrom]
  by_cases blank : trim spec = []
  · rw [if_pos blank]
    refine ⟨⟨?_, fun refused => absurd blank refused.1⟩, ?_⟩
    · rintro ⟨message, ⟨⟩⟩
    · rintro map ⟨⟩ bucket
      refine ⟨Nat.mod_lt _ positive, Or.inr ⟨fun part member fragment => ?_, rfl⟩⟩
      rw [splitOn_blank blank, List.mem_singleton] at member
      subst member
      exact fun denotes => absurd denotes (not_digits_nil part blank fragment)
  · rw [if_neg blank, foldlM_error_iff]
    refine ⟨⟨fun unfit => ⟨blank, unfit⟩, fun refused => refused.2⟩, ?_⟩
    exact fun map accepted => foldlM_assigns positive accepted

/-- A specification with blanks, a leading zero and an overlap. -/
theorem buildBucketMapFrom_exact_overlap : 1 ≤ 2 ∧
    ((∃ message, buildBucketMapFrom 2 (some (text " 0-62:0, 07:1 ")) = .error message) ↔
      trim (text " 0-62:0, 07:1 ") ≠ [] ∧ ∃ part ∈ (text " 0-62:0, 07:1 ").splitOn comma,
        ¬ ∃ fragment, Denotes part fragment ∧ fragment.Fits 2) ∧
    ∀ map, buildBucketMapFrom 2 (some (text " 0-62:0, 07:1 ")) = .ok map → ∀ bucket,
      map bucket < 2 ∧ Assigns 2 ((text " 0-62:0, 07:1 ").splitOn comma) bucket (map bucket) :=
  ⟨by decide, buildBucketMapFrom_exact (by decide) (text " 0-62:0, 07:1 ")⟩

/-- With at most 2^53 shards the decimal values decide what fits. -/
theorem FragmentMatch.fits_iff {shardCount : Nat} (bound : shardCount ≤ 2 ^ 53)
    (found : FragmentMatch) : found.numbers.Fits shardCount ↔
      digitsValue found.first ≤ digitsValue (found.last.getD found.first) ∧
        digitsValue (found.last.getD found.first) < BUCKETS ∧
          digitsValue found.shard < shardCount := by
  have small : BUCKETS ≤ 2 ^ 53 := by decide
  have range : toNumber (found.last.getD found.first) < BUCKETS ↔ _ := toNumber_lt_iff small
  have shard : toNumber found.shard < shardCount ↔ _ := toNumber_lt_iff bound
  have order : digitsValue (found.last.getD found.first) < BUCKETS →
      (toNumber found.first ≤ toNumber (found.last.getD found.first) ↔
        digitsValue found.first ≤ digitsValue (found.last.getD found.first)) := by
    intro low
    have precise := toNumber_of_lt (low.trans_le small)
    have below : toNumber found.first < digitsValue (found.last.getD found.first) + 1 ↔ _ :=
      toNumber_lt_iff (Nat.succ_le_of_lt (low.trans_le small))
    rw [precise]
    omega
  constructor
  · intro fits
    have low := range.mp fits.range
    exact ⟨(order low).mp fits.order, low, shard.mp fits.shard⟩
  · rintro ⟨ordered, low, stands⟩
    exact ⟨(order low).mpr ordered, range.mpr low, shard.mpr stands⟩

/-- The environment variables that the constructor of the router reads. -/
structure RouterEnv where
  shardUrls : Option Text
  shardStrategy : Option Text
  shardBucketMap : Option Text

namespace RouterEnv

def urls (env : RouterEnv) : List Text :=
  (((env.shardUrls.getD []).splitOn comma).map trim).filter (· ≠ [])

/-- The length of `shards`: without URLs there is the one shard global. -/
def shardCount (env : RouterEnv) : Nat := if env.urls = [] then 1 else env.urls.length

theorem shardCount_pos (env : RouterEnv) : 1 ≤ env.shardCount := by
  unfold shardCount
  split
  · exact le_rfl
  · next filled => exact List.length_pos_iff.mpr filled

/-- The constructor of the router. -/
def router (env : RouterEnv) : Except Text (ShardRouter env.shardCount) :=
  match accepted : buildBucketMapFrom env.shardCount env.shardBucketMap with
  | .error message => .error message
  | .ok map => .ok {
      sharded := env.urls ≠ []
      strategy := parseStrategy env.shardStrategy
      bucketMap := fun bucket =>
        ⟨map bucket, buildBucketMapFrom_lt env.shardCount_pos accepted bucket⟩ }

/-- A router that is constructed takes a key to the shard that the map gives its bucket. -/
theorem forKey_router {env : RouterEnv} {router : ShardRouter env.shardCount}
    (built : env.router = .ok router) (id : Text) :
    ∃ map, buildBucketMapFrom env.shardCount env.shardBucketMap = .ok map ∧
      (router.forKey id : Nat) = map ⟨bucketOf id, bucketOf_lt id⟩ := by
  unfold RouterEnv.router at built
  split at built
  · cases built
  · next map accepted =>
    cases built
    exact ⟨map, accepted, rfl⟩

end RouterEnv

/-- Every string has a shard, whatever map is accepted. -/
theorem routing_total {Shard : Type} {shards : List Shard} {spec : Option Text} {map : BucketMap}
    (positive : 1 ≤ shards.length) (accepted : buildBucketMapFrom shards.length spec = .ok map)
    (id uuid : Text) :
    fnv1a id = fnv1aUnsigned id ∧ fnv1a id < 2 ^ 32 ∧ bucketOf id < BUCKETS ∧
      (∃ shard, shards[map ⟨bucketOf id, bucketOf_lt id⟩]? = some shard) ∧
      bucketOf (ShardRouter.childId id uuid) = bucketOf id := by
  have low := buildBucketMapFrom_lt positive accepted ⟨bucketOf id, bucketOf_lt id⟩
  refine ⟨fnv1a_eq_unsigned id, fnv1a_lt id, bucketOf_lt id, ⟨_, List.getElem?_eq_getElem low⟩, ?_⟩
  exact ShardRouter.bucketOf_childId id uuid

/-- An identifier without a hexadecimal prefix, its child with an empty suffix. -/
theorem routing_total_hashed :
    (1 ≤ [text "a", text "b"].length ∧
      buildBucketMapFrom [text "a", text "b"].length none = .ok (buildBucketMap 2)) ∧
    fnv1a (text "x") = fnv1aUnsigned (text "x") ∧ fnv1a (text "x") < 2 ^ 32 ∧
      bucketOf (text "x") < BUCKETS ∧
      (∃ shard, [text "a", text "b"][buildBucketMap 2 ⟨bucketOf (text "x"), bucketOf_lt (text "x")⟩]? =
        some shard) ∧
      bucketOf (ShardRouter.childId (text "x") []) = bucketOf (text "x") :=
  ⟨⟨by decide, rfl⟩, @routing_total Text [text "a", text "b"] none _ (by decide) rfl (text "x") []⟩

end HotelBooking
