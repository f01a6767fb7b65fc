import Mathlib.Data.List.Basic

/-! The sharding key and its virtual buckets, as computed by shard-key.ts.
Strings are the sequences of UTF-16 code units that JavaScript sees; all
functions are total on them, well formed or not. -/
namespace HotelBooking

/-- A JavaScript string. -/
abbrev Text : Type := List UInt16

/-- Milliseconds since the epoch, the value of `Date.prototype.getTime`. -/
abbrev Instant : Type := Int

def codeUnits (c : Char) : Text :=
  if c.toNat < 0x10000 then [c.toNat.toUInt16]
  else [(0xD800 + (c.toNat - 0x10000) / 0x400).toUInt16, (0xDC00 + c.toNat % 0x400).toUInt16]

def text (literal : String) : Text := literal.toList.flatMap codeUnits

/-- The parts of the runtime that the sources call and do not define: the Unicode
case table, `new Date(text)` (`none` is an Invalid Date) and the reading of a
string that Prisma is given for a DateTime column. -/
structure Platform where
  toLowerCase : Text → Text
  newDate : Text → Option Instant
  prismaDateTime : Text → Option Instant

/-- Number of virtual buckets, fixed by the format of the identifiers. -/
def BUCKETS : Nat := 64

inductive ShardStrategy where
  | hash
  | city
  deriving DecidableEq

def parseStrategy (value : Option Text) : ShardStrategy :=
  if value = some (text "city") then .city else .hash

/-- The loop works on signed 32-bit values (`^=`, `Math.imul`); `>>> 0` reads the
result as unsigned. -/
def fnv1a (input : Text) : Nat :=
  (input.foldl (fun (hash : Int32) unit => (hash ^^^ unit.toUInt32.toInt32) * 0x01000193)
    (0x811c9dc5 : UInt32).toInt32).toUInt32.toNat

/-- The code units that `String.prototype.trim` removes. -/
def isBlank (unit : UInt16) : Bool :=
  (9 ≤ unit && unit ≤ 13) || unit == 0x20 || unit == 0xA0 || unit == 0x1680 ||
    (0x2000 ≤ unit && unit ≤ 0x200A) || unit == 0x2028 || unit == 0x2029 || unit == 0x202F ||
    unit == 0x205F || unit == 0x3000 || unit == 0xFEFF

def trim (input : Text) : Text := ((input.dropWhile isBlank).reverse.dropWhile isBlank).reverse

def normalizeCity (platform : Platform) (city : Text) : Text := platform.toLowerCase (trim city)

def hexDigit? (unit : UInt16) : Option Nat :=
  if 48 ≤ unit ∧ unit ≤ 57 then some (unit.toNat - 48)
  else if 65 ≤ unit ∧ unit ≤ 70 then some (unit.toNat - 55)
  else if 97 ≤ unit ∧ unit ≤ 102 then some (unit.toNat - 87)
  else none

/-- `HEX_PREFIX` together with the `parseInt` of the two digits it matches. -/
def hexPrefix? : Text → Option Nat
  | first :: second :: _ => do return 16 * (← hexDigit? first) + (← hexDigit? second)
  | _ => none

/-- An identifier carries its bucket in its prefix; any other string is hashed. -/
def bucketOf (id : Text) : Nat :=
  match hexPrefix? id with
  | some value => value % BUCKETS
  | none => fnv1a id % BUCKETS

def toHex (n : Nat) : Text := (Nat.toDigits 16 n).flatMap codeUnits

def padStart (width : Nat) (fill : UInt16) (input : Text) : Text :=
  List.replicate (width - input.length) fill ++ input

/-- A UUID whose first byte is replaced by the number of a bucket. -/
def idInBucket (bucket : Nat) (uuid : Text) : Text := padStart 2 48 (toHex bucket) ++ uuid.drop 2

def bucketForNewHotel (platform : Platform) (strategy : ShardStrategy) (uuid city : Text) : Nat :=
  match strategy with
  | .city => fnv1a (normalizeCity platform city) % BUCKETS
  | .hash => fnv1a uuid % BUCKETS

def shardName (index : Nat) : Text := text "shard-" ++ [(97 + index).toUInt16]

/-- Midnight UTC of a day in January 2026, as `toISOString` writes it. -/
def january (day : Nat) : Text :=
  text "2026-01-" ++ padStart 2 48 ((Nat.toDigits 10 day).flatMap codeUnits) ++
    text "T00:00:00.000Z"

def readJanuary (input : Text) : Option Instant :=
  (List.range 31).findSome? fun day =>
    if input = january (day + 1) then some (1767225600000 + 86400000 * day) else none

/-- The runtime as far as the examples need it: ASCII letters and the dates of one month. -/
def Platform.sample : Platform where
  toLowerCase := List.map fun unit => if 65 ≤ unit ∧ unit ≤ 90 then unit + 32 else unit
  newDate := readJanuary
  prismaDateTime := readJanuary

/-- A UUID of version 4 that ends in the given byte. -/
def sampleUuid (byte : Nat) : Text :=
  text "00000000-0000-4000-8000-0000000000" ++ padStart 2 48 (toHex byte)

theorem bucketOf_lt (id : Text) : bucketOf id < BUCKETS := by
  unfold bucketOf
  split <;> exact Nat.mod_lt _ (by decide)

theorem bucketForNewHotel_lt (platform : Platform) (strategy : ShardStrategy) (uuid city : Text) :
    bucketForNewHotel platform strategy uuid city < BUCKETS := by
  unfold bucketForNewHotel
  split <;> exact Nat.mod_lt _ (by decide)

theorem hexPrefix?_append {first second : UInt16} (rest : Text) :
    hexPrefix? ([first, second] ++ rest) = hexPrefix? [first, second] := rfl

/-- The two digits written for a bucket read back as that bucket. -/
theorem bucket_digits : ∀ bucket < BUCKETS, ∃ first second,
    padStart 2 48 (toHex bucket) = [first, second] ∧ hexPrefix? [first, second] = some bucket := by
  have table : ∀ bucket : Fin BUCKETS,
      (padStart 2 48 (toHex bucket)).length = 2 ∧
        hexPrefix? (padStart 2 48 (toHex bucket)) = some bucket.val := by decide
  intro bucket bound
  obtain ⟨two, read⟩ := table ⟨bucket, bound⟩
  obtain ⟨first, second, digits⟩ := List.length_eq_two.mp two
  exact ⟨first, second, digits, digits ▸ read⟩

theorem bucketOf_idInBucket {bucket : Nat} (bound : bucket < BUCKETS) (uuid : Text) :
    bucketOf (idInBucket bucket uuid) = bucket := by
  obtain ⟨first, second, digits, read⟩ := bucket_digits bucket bound
  simp only [bucketOf, idInBucket, digits, hexPrefix?_append, read]
  exact Nat.mod_eq_of_lt bound

example : fnv1a (text "kyiv") % BUCKETS = fnv1a (text "chernivtsi") % BUCKETS := by decide

end HotelBooking
