import Mathlib.Tactic.Common

/-! UTF-8: the bytes of a code point, and the reading of them, which admits the shortest form
of a scalar value and nothing else. -/
namespace Utf8

/-- A code point that is no surrogate. -/
def Scalar (point : Nat) : Prop := point < 0xD800 ∨ 0xE000 ≤ point ∧ point < 0x110000

instance (point : Nat) : Decidable (Scalar point) := inferInstanceAs (Decidable (_ ∨ _))

def encode (point : Nat) : List Nat :=
  if point < 0x80 then [point]
  else if point < 0x800 then [0xC0 + point / 64, 0x80 + point % 64]
  else if point < 0x10000 then [0xE0 + point / 4096, 0x80 + point / 64 % 64, 0x80 + point % 64]
  else [0xF0 + point / 262144, 0x80 + point / 4096 % 64, 0x80 + point / 64 % 64, 0x80 + point % 64]

/-- The number of bytes that a first byte announces. -/
def announced? (first : Nat) : Option Nat :=
  if first < 0x80 then some 1
  else if first / 32 = 6 then some 2
  else if first / 16 = 14 then some 3
  else if first / 8 = 30 then some 4
  else none

def scalar? (least point : Nat) : Option Nat :=
  if least ≤ point ∧ Scalar point then some point else none

def decode? : List Nat → Option Nat
  | [a] => if a < 0x80 then some a else none
  | [a, b] => if a / 32 = 6 ∧ b / 64 = 2 then scalar? 0x80 (a % 32 * 64 + b % 64) else none
  | [a, b, c] =>
    if a / 16 = 14 ∧ b / 64 = 2 ∧ c / 64 = 2 then
      scalar? 0x800 (a % 16 * 4096 + b % 64 * 64 + c % 64)
    else none
  | [a, b, c, d] =>
    if a / 8 = 30 ∧ b / 64 = 2 ∧ c / 64 = 2 ∧ d / 64 = 2 then
      scalar? 0x10000 (a % 8 * 262144 + b % 64 * 4096 + c % 64 * 64 + d % 64)
    else none
  | _ => none

theorem scalar?_eq_some {least point result : Nat} :
    scalar? least point = some result ↔ least ≤ point ∧ Scalar point ∧ point = result := by
  unfold scalar?
  split
  · next holds => simp [holds]
  · next fails =>
    constructor
    · intro found
      cases found
    · rintro ⟨low, scalar, _⟩
      exact absurd ⟨low, scalar⟩ fails

theorem decode?_encode {point : Nat} (scalar : Scalar point) : decode? (encode point) = some point := by
  unfold encode
  split
  · next small => exact if_pos small
  · split
    · simp only [decode?]
      rw [if_pos (by omega), scalar?_eq_some]
      exact ⟨by omega, by unfold Scalar; omega, by omega⟩
    · split
      · simp only [decode?]
        rw [if_pos (by omega), scalar?_eq_some]
        exact ⟨by omega, by unfold Scalar at *; omega, by omega⟩
      · have high : point < 0x110000 := by
          unfold Scalar at scalar
          omega
        simp only [decode?]
        rw [if_pos (by omega), scalar?_eq_some]
        exact ⟨by omega, by unfold Scalar at *; omega, by omega⟩

theorem encode_decode? {bytes : List Nat} {point : Nat} (read : decode? bytes = some point) :
    Scalar point ∧ bytes = encode point := by
  unfold decode? at read
  split at read
  · next a =>
    split at read
    · next small =>
      cases read
      exact ⟨Or.inl (by omega), by rw [encode, if_pos small]⟩
    · cases read
  · next a b =>
    split at read
    · next lead =>
      obtain ⟨low, scalar, rfl⟩ := scalar?_eq_some.mp read
      refine ⟨scalar, ?_⟩
      rw [encode, if_neg (by omega), if_pos (by omega)]
      simp only [List.cons.injEq, and_true]
      omega
    · cases read
  · next a b c =>
    split at read
    · next lead =>
      obtain ⟨low, scalar, rfl⟩ := scalar?_eq_some.mp read
      refine ⟨scalar, ?_⟩
      rw [encode, if_neg (by omega), if_neg (by omega), if_pos (by omega)]
      simp only [List.cons.injEq, and_true]
      omega
    · cases read
  · next a b c d =>
    split at read
    · next lead =>
      obtain ⟨low, scalar, rfl⟩ := scalar?_eq_some.mp read
      refine ⟨scalar, ?_⟩
      rw [encode, if_neg (by omega), if_neg (by omega), if_neg (by omega)]
      simp only [List.cons.injEq, and_true]
      omega
    · cases read
  · cases read

/-- What is read is what was written. -/
theorem decode?_eq_some {bytes : List Nat} {point : Nat} :
    decode? bytes = some point ↔ Scalar point ∧ bytes = encode point := by
  constructor
  · exact encode_decode?
  · rintro ⟨scalar, rfl⟩
    exact decode?_encode scalar

theorem encode_ne_nil (point : Nat) : encode point ≠ [] := by
  unfold encode
  split
  · exact List.cons_ne_nil _ _
  · split
    · exact List.cons_ne_nil _ _
    · split
      · exact List.cons_ne_nil _ _
      · exact List.cons_ne_nil _ _

/-- The first byte of a scalar value announces how many there are. -/
theorem announced?_encode {point first : Nat} {others : List Nat} (scalar : Scalar point)
    (bytes : encode point = first :: others) : announced? first = some (others.length + 1) := by
  unfold Scalar at scalar
  unfold encode at bytes
  unfold announced?
  split at bytes
  · cases bytes
    rw [if_pos ‹_›]
    rfl
  · split at bytes
    · cases bytes
      rw [if_neg (by omega), if_pos (by omega)]
      rfl
    · split at bytes
      · cases bytes
        rw [if_neg (by omega), if_neg (by omega), if_pos (by omega)]
        rfl
      · cases bytes
        rw [if_neg (by omega), if_neg (by omega), if_neg (by omega), if_pos (by omega)]
        rfl

end Utf8
