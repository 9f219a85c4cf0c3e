/- Hexadecimal text of byte strings, as the `hex` crate writes it into a slice and reads it from
   one: two digits a byte, high half first, written in lower case and read in either case. -/

import Mathlib.Tactic.IntervalCases

set_option autoImplicit false
set_option relaxedAutoImplicit false

namespace Libtelio.Lib.Hex

inductive FromHexError
  | invalidHexCharacter (c : UInt8) (index : Nat)
  | oddLength
  | invalidStringLength
  deriving DecidableEq, Repr

/-- `HEX_CHARS_LOWER`: `0123456789abcdef`. -/
def HEX_CHARS_LOWER : List UInt8 :=
  [48, 49, 50, 51, 52, 53, 54, 55, 56, 57, 97, 98, 99, 100, 101, 102]

/-- `byte2hex` with the lower-case table. -/
def byte2hex (byte : UInt8) : List UInt8 :=
  [HEX_CHARS_LOWER.getD (byte >>> 4).toNat 0, HEX_CHARS_LOWER.getD (byte &&& 0x0f).toNat 0]

def encode (input : List UInt8) : List UInt8 :=
  input.flatMap byte2hex

/-- `encode_to_slice`: the digits over the whole output, which must be twice the input. -/
def encodeToSlice {n : Nat} (input : List UInt8) (out : Vector UInt8 n) :
    Except FromHexError (Vector UInt8 n) :=
  if input.length * 2 ≠ n then .error .invalidStringLength
  else .ok (Vector.ofFn fun i => (encode input).getD i (out.get i))

/-- `val`: the value of one digit, either case, or the digit's byte and index in the error. -/
def val (c : UInt8) (idx : Nat) : Except FromHexError UInt8 :=
  if 65 ≤ c ∧ c ≤ 70 then .ok (c - 65 + 10)
  else if 97 ≤ c ∧ c ≤ 102 then .ok (c - 97 + 10)
  else if 48 ≤ c ∧ c ≤ 57 then .ok (c - 48)
  else .error (.invalidHexCharacter c idx)

/-- The loop of `decode_to_slice` from the digit at `index` on: one byte from each pair, the
first bad digit ending it. -/
def decodePairs : Nat → List UInt8 → Except FromHexError (List UInt8)
  | index, high :: low :: rest => do
    let high ← val high index
    let low ← val low (index + 1)
    let rest ← decodePairs (index + 2) rest
    return (high <<< 4 ||| low) :: rest
  | _, _ => .ok []

/-- `decode_to_slice`: an even number of digits, two for each byte of the output. -/
def decodeToSlice {n : Nat} (data : List UInt8) (out : Vector UInt8 n) :
    Except FromHexError (Vector UInt8 n) :=
  if data.length % 2 ≠ 0 then .error .oddLength
  else if data.length / 2 ≠ n then .error .invalidStringLength
  else (decodePairs 0 data).map fun bytes => Vector.ofFn fun i => bytes.getD i (out.get i)

theorem encode_length (input : List UInt8) : (encode input).length = 2 * input.length := by
  induction input with
  | nil => rfl
  | cons byte rest ih => simp [encode, byte2hex] at ih ⊢; omega

/-- Each digit of the table reads back as its value. -/
theorem val_HEX_CHARS_LOWER {v : Nat} (small : v < 16) (idx : Nat) :
    val (HEX_CHARS_LOWER.getD v 0) idx = .ok (UInt8.ofNat v) := by
  interval_cases v <;> rfl

private theorem toNat_high (byte : UInt8) : (byte >>> 4).toNat = byte.toNat / 16 := by
  simp [UInt8.toNat_shiftRight, Nat.shiftRight_eq_div_pow]

private theorem toNat_low (byte : UInt8) : (byte &&& 0x0f).toNat = byte.toNat % 16 := by
  simp only [UInt8.toNat_and]
  simpa using Nat.and_two_pow_sub_one_eq_mod byte.toNat 4

/-- The two halves of a byte put back together. -/
theorem halves_join (byte : UInt8) : (byte >>> 4) <<< 4 ||| (byte &&& 0x0f) = byte := by
  apply UInt8.toNat.inj
  have high := toNat_high byte
  have low := toNat_low byte
  have small := byte.toNat_lt
  rw [UInt8.toNat_or, UInt8.toNat_shiftLeft]
  simp only [UInt8.toNat_ofNat, Nat.reduceMod, Nat.reducePow]
  rw [high, low, Nat.mod_eq_of_lt (by rw [Nat.shiftLeft_eq]; omega),
    ← Nat.shiftLeft_add_eq_or_of_lt (by omega), Nat.shiftLeft_eq]
  omega

theorem decodePairs_encode (input : List UInt8) (index : Nat) :
    decodePairs index (encode input) = .ok input := by
  induction input generalizing index with
  | nil => rfl
  | cons byte rest ih =>
    have high : (byte >>> 4).toNat < 16 := by rw [toNat_high]; have := byte.toNat_lt; omega
    have low : (byte &&& 0x0f).toNat < 16 := by rw [toNat_low]; omega
    have tail : decodePairs (index + 2) (encode rest) = .ok rest := ih (index + 2)
    simp only [encode, List.flatMap_cons, byte2hex, List.cons_append, List.nil_append] at tail ⊢
    simp only [decodePairs, val_HEX_CHARS_LOWER high, val_HEX_CHARS_LOWER low, tail,
      UInt8.ofNat_toNat, halves_join, bind, Except.bind, pure, Except.pure]

/-- Hex round trip through the slices: the digits written for `n` bytes read back as them. -/
theorem decodeToSlice_encode {n : Nat} (bytes out : Vector UInt8 n) :
    decodeToSlice (encode bytes.toList) out = .ok bytes := by
  have length : (encode bytes.toList).length = 2 * n := by simp [encode_length]
  simp only [decodeToSlice, length, decodePairs_encode, Except.map]
  rw [if_neg (by omega), if_neg (by omega)]
  congr 1
  ext i small
  simp

theorem encodeToSlice_ok {n : Nat} (input : List UInt8) (out : Vector UInt8 n)
    (length : input.length * 2 = n) :
    (encodeToSlice input out).map Vector.toList = .ok (encode input) := by
  have digits : (encode input).length = n := by rw [encode_length]; omega
  simp only [encodeToSlice, length, ne_eq, not_true_eq_false, ↓reduceIte, Except.map,
    Except.ok.injEq]
  apply List.ext_getElem (by simp [digits])
  intro i small _
  simp at small
  simp [digits]

/-- Every digit written is one of the table's. -/
theorem mem_encode {input : List UInt8} {c : UInt8} (mem : c ∈ encode input) :
    c ∈ HEX_CHARS_LOWER := by
  obtain ⟨byte, -, digit⟩ := List.mem_flatMap.mp mem
  have high : (byte >>> 4).toNat < HEX_CHARS_LOWER.length := by
    rw [toNat_high]; have := byte.toNat_lt; simp [HEX_CHARS_LOWER]; omega
  have low : (byte &&& 0x0f).toNat < HEX_CHARS_LOWER.length := by
    rw [toNat_low]; simp [HEX_CHARS_LOWER]; omega
  simp only [byte2hex, List.mem_cons, List.not_mem_nil, or_false] at digit
  rcases digit with rfl | rfl
  · rw [List.getD_eq_getElem?_getD, List.getElem?_eq_getElem high, Option.getD_some]
    exact List.getElem_mem high
  · rw [List.getD_eq_getElem?_getD, List.getElem?_eq_getElem low, Option.getD_some]
    exact List.getElem_mem low

end Libtelio.Lib.Hex
