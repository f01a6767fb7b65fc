import HotelBooking.Encoding.Utf8
import HotelBooking.Sharding.ShardKey

/-! `decodeURIComponent`, which throws on every percent sign that does not begin the escaped
UTF-8 of a character. -/
namespace HotelBooking
open Utf8

def percent : UInt16 := 37

def utf16 (point : Nat) : Text :=
  if point < 0x10000 then [point.toUInt16]
  else [(0xD800 + (point - 0x10000) / 0x400).toUInt16, (0xDC00 + point % 0x400).toUInt16]

/-- `%` and two hexadecimal digits. -/
def escape? : Text → Option (Nat × Text)
  | sign :: high :: low :: rest => do
    if sign = percent then
      let high ← hexDigit? high
      let low ← hexDigit? low
      return (16 * high + low, rest)
    else none
  | _ => none

def escapes? : Nat → Text → Option (List Nat × Text)
  | 0, input => some ([], input)
  | count + 1, input => do
    let (byte, rest) ← escape? input
    let (bytes, rest) ← escapes? count rest
    return (byte :: bytes, rest)

/-- The code point whose bytes are escaped at the start of the input. -/
def sequence? (input : Text) : Option (Nat × Text) := do
  let (first, _) ← escape? input
  let count ← announced? first
  let (bytes, rest) ← escapes? count input
  let point ← decode? bytes
  return (point, rest)

theorem escape?_shorter {input rest : Text} {byte : Nat} (read : escape? input = some (byte, rest)) :
    rest.length < input.length := by
  unfold escape? at read
  split at read
  · next sign high low tail =>
    split at read
    · obtain ⟨_, _, read⟩ := Option.bind_eq_some_iff.mp read
      obtain ⟨_, _, read⟩ := Option.bind_eq_some_iff.mp read
      cases read
      simp only [List.length_cons]
      omega
    · cases read
  · cases read

theorem escapes?_shorter {count : Nat} {input rest : Text} {bytes : List Nat}
    (read : escapes? count input = some (bytes, rest)) : rest.length + count ≤ input.length := by
  induction count generalizing input bytes with
  | zero =>
    cases read
    exact Nat.le_refl _
  | succ count ih =>
    obtain ⟨⟨byte, middle⟩, first, read⟩ := Option.bind_eq_some_iff.mp read
    obtain ⟨⟨others, last⟩, later, read⟩ := Option.bind_eq_some_iff.mp read
    cases read
    have one := escape?_shorter first
    have more := ih later
    omega

theorem announced?_pos {first count : Nat} (read : announced? first = some count) : 1 ≤ count := by
  unfold announced? at read
  grind

theorem sequence?_shorter {input rest : Text} {point : Nat}
    (read : sequence? input = some (point, rest)) : rest.length < input.length := by
  obtain ⟨⟨first, _⟩, _, read⟩ := Option.bind_eq_some_iff.mp read
  obtain ⟨count, announced, read⟩ := Option.bind_eq_some_iff.mp read
  obtain ⟨⟨bytes, rest'⟩, all, read⟩ := Option.bind_eq_some_iff.mp read
  obtain ⟨point', _, read⟩ := Option.bind_eq_some_iff.mp read
  cases read
  have consumed := escapes?_shorter all
  have some_ := announced?_pos announced
  omega

/-- `none` is a URIError. -/
def decodeURIComponent (input : Text) : Option Text :=
  match input with
  | [] => some []
  | unit :: rest =>
    if unit = percent then
      match _ : sequence? (unit :: rest) with
      | none => none
      | some (point, tail) => (decodeURIComponent tail).map (utf16 point ++ ·)
    else (decodeURIComponent rest).map (unit :: ·)
termination_by input.length
decreasing_by
  · exact sequence?_shorter ‹_›
  · exact Nat.lt_succ_self rest.length

theorem decodeURIComponent_percent (rest : Text) : decodeURIComponent (percent :: rest) =
    (sequence? (percent :: rest)).bind fun read =>
      (decodeURIComponent read.2).map (utf16 read.1 ++ ·) := by
  rw [decodeURIComponent, if_pos rfl]
  split
  · next read => rw [read, Option.bind_none]
  · next read => rw [read, Option.bind_some]

theorem decodeURIComponent_plain {unit : UInt16} (plain : unit ≠ percent) (rest : Text) :
    decodeURIComponent (unit :: rest) = (decodeURIComponent rest).map (unit :: ·) := by
  rw [decodeURIComponent, if_neg plain]

/-- A text that writes these bytes with percent signs. -/
inductive Escapes : List Nat → Text → Prop where
  | nil : Escapes [] []
  | cons {high low : UInt16} {first second : Nat} {bytes : List Nat} {rest : Text} :
      hexDigit? high = some first → hexDigit? low = some second → Escapes bytes rest →
      Escapes ((16 * first + second) :: bytes) (percent :: high :: low :: rest)

/-- The decoding of a text: percent signs write the UTF-8 of code points, anything else writes
itself. -/
inductive Decodes : Text → Text → Prop where
  | nil : Decodes [] []
  | plain {unit : UInt16} {rest decoded : Text} :
      unit ≠ percent → Decodes rest decoded → Decodes (unit :: rest) (unit :: decoded)
  | escaped {point : Nat} {written rest decoded : Text} :
      Scalar point → Escapes (encode point) written → Decodes rest decoded →
      Decodes (written ++ rest) (utf16 point ++ decoded)

section Decoding
variable {input rest : Text}

theorem escape?_eq_some {byte : Nat} : escape? input = some (byte, rest) ↔
    ∃ written, Escapes [byte] written ∧ input = written ++ rest := by
  constructor
  · intro read
    unfold escape? at read
    split at read
    · next sign high low tail =>
      split at read
      · next marked =>
        obtain ⟨first, reads, read⟩ := Option.bind_eq_some_iff.mp read
        obtain ⟨second, reads', read⟩ := Option.bind_eq_some_iff.mp read
        cases read
        subst marked
        exact ⟨[percent, high, low], .cons reads reads' .nil, rfl⟩
      · cases read
    · cases read
  · rintro ⟨written, escapes, rfl⟩
    cases escapes with
    | cons reads reads' none_ =>
      cases none_
      simp [escape?, reads, reads']

theorem escapes?_eq_some {count : Nat} {bytes : List Nat} : escapes? count input = some (bytes, rest) ↔
    bytes.length = count ∧ ∃ written, Escapes bytes written ∧ input = written ++ rest := by
  induction count generalizing input bytes with
  | zero =>
    constructor
    · intro read
      cases read
      exact ⟨rfl, [], .nil, rfl⟩
    · rintro ⟨length, written, escapes, rfl⟩
      cases List.length_eq_zero_iff.mp length
      cases escapes
      rfl
  | succ count ih =>
    constructor
    · intro read
      obtain ⟨⟨byte, middle⟩, first, read⟩ := Option.bind_eq_some_iff.mp read
      obtain ⟨⟨others, last⟩, later, read⟩ := Option.bind_eq_some_iff.mp read
      cases read
      obtain ⟨written, escapes, rfl⟩ := escape?_eq_some.mp first
      obtain ⟨length, written', escapes', rfl⟩ := ih.mp later
      refine ⟨congrArg Nat.succ length, written ++ written', ?_, (List.append_assoc _ _ _).symm⟩
      cases escapes with
      | cons reads reads' none_ =>
        cases none_
        exact .cons reads reads' escapes'
    · rintro ⟨length, written, escapes, rfl⟩
      cases escapes with
      | nil => cases length
      | @cons high low first second others tail reads reads' escapes' =>
        have here : escape? (percent :: high :: low :: (tail ++ rest)) =
            some (16 * first + second, tail ++ rest) :=
          escape?_eq_some.mpr ⟨_, .cons reads reads' .nil, rfl⟩
        have later := ih.mpr ⟨Nat.succ.inj length, tail, escapes', rfl⟩
        simp only [escapes?, List.cons_append, here, later, Option.bind_some, bind, pure]

theorem sequence?_eq_some {point : Nat} : sequence? input = some (point, rest) ↔
    Scalar point ∧ ∃ written, Escapes (encode point) written ∧ input = written ++ rest := by
  constructor
  · intro read
    obtain ⟨⟨first, _⟩, _, read⟩ := Option.bind_eq_some_iff.mp read
    obtain ⟨count, announced, read⟩ := Option.bind_eq_some_iff.mp read
    obtain ⟨⟨bytes, rest'⟩, all, read⟩ := Option.bind_eq_some_iff.mp read
    obtain ⟨point', decoded, read⟩ := Option.bind_eq_some_iff.mp read
    cases read
    obtain ⟨scalar, rfl⟩ := decode?_eq_some.mp decoded
    exact ⟨scalar, (escapes?_eq_some.mp all).2⟩
  · rintro ⟨scalar, written, escapes, rfl⟩
    have decoded := decode?_eq_some.mpr ⟨scalar, rfl⟩
    cases bytes : encode point with
    | nil => exact absurd bytes (encode_ne_nil point)
    | cons first others =>
      have announced := announced?_encode scalar bytes
      rw [bytes] at escapes decoded
      have all : escapes? (others.length + 1) (written ++ rest) = some (first :: others, rest) :=
        escapes?_eq_some.mpr ⟨rfl, written, escapes, rfl⟩
      have one : ∃ tail, escape? (written ++ rest) = some (first, tail) := by
        cases escapes with
        | cons reads reads' escapes' =>
          exact ⟨_, escape?_eq_some.mpr ⟨_, .cons reads reads' .nil, rfl⟩⟩
      obtain ⟨tail, here⟩ := one
      simp only [sequence?, here, announced, all, decoded, Option.bind_some, bind, pure]

theorem Escapes.cons_eq {bytes : List Nat} {written : Text} (escapes : Escapes bytes written)
    (some_ : bytes ≠ []) : ∃ tail, written = percent :: tail := by
  cases escapes with
  | nil => exact absurd rfl some_
  | cons _ _ _ => exact ⟨_, rfl⟩

/-- The function decodes the texts that have a decoding, and throws on the others. -/
theorem decodeURIComponent_eq_some {decoded : Text} :
    decodeURIComponent input = some decoded ↔ Decodes input decoded := by
  constructor
  · intro done
    induction input using decodeURIComponent.induct generalizing decoded with
    | case1 =>
      rw [decodeURIComponent] at done
      cases done
      exact .nil
    | case2 rest read =>
      rw [decodeURIComponent_percent, read] at done
      cases done
    | case3 rest point tail read ih =>
      rw [decodeURIComponent_percent, read, Option.bind_some] at done
      obtain ⟨later, decodes, rfl⟩ := Option.map_eq_some_iff.mp done
      obtain ⟨scalar, written, escapes, split⟩ := sequence?_eq_some.mp read
      rw [split]
      exact .escaped scalar escapes (ih decodes)
    | case4 unit rest plain ih =>
      rw [decodeURIComponent_plain plain] at done
      obtain ⟨later, decodes, rfl⟩ := Option.map_eq_some_iff.mp done
      exact .plain plain (ih decodes)
  · intro decodes
    induction decodes with
    | nil => rw [decodeURIComponent]
    | plain different _ ih => rw [decodeURIComponent_plain different, ih, Option.map_some]
    | @escaped point written rest later scalar escapes _ ih =>
      have read : sequence? (written ++ rest) = some (point, rest) :=
        sequence?_eq_some.mpr ⟨scalar, written, escapes, rfl⟩
      obtain ⟨tail, rfl⟩ := escapes.cons_eq (encode_ne_nil point)
      rw [List.cons_append] at read ⊢
      rw [decodeURIComponent_percent, read, Option.bind_some, ih, Option.map_some]

end Decoding
end HotelBooking
