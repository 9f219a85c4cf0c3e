/- Integers as decimal text: `Display` of Rust's integer types writes the digits of the value
   with a minus sign before a negative one, and `from_str` (`from_str_radix` with radix 10)
   reads an optional sign and then digits, leading zeros allowed, and fails on an empty text, a
   lone sign, any other character and a value outside the type. Each value's text reads back as
   the value. -/

import Mathlib

set_option autoImplicit false
set_option relaxedAutoImplicit false

namespace Libtelio.Lib.Decimal

/-- The value of a run of decimal digits, `none` if one of them is not a digit. -/
def digitsValue (digits : List Char) : Option Nat :=
  if digits.all Char.isDigit then some (Nat.ofDigitChars 10 digits 0) else none

/-- `from_str_radix(src, 10)` of an unsigned integer of `bits` bits; `none` is the `Err` of an
empty text, a lone sign, a character that is no digit (a `-` among them) and an overflow. -/
def unsignedFromStr (bits : Nat) (src : List Char) : Option Nat :=
  match src with
  | [] => none
  | ['+'] | ['-'] => none
  | '+' :: digits => (digitsValue digits).filter (· < 2 ^ bits)
  | digits => (digitsValue digits).filter (· < 2 ^ bits)

/-- `from_str_radix(src, 10)` of a signed integer of `bits` bits: the value of the digits after a
`-` is negated, and the result must lie in `-2^(bits-1) ≤ v < 2^(bits-1)`. -/
def signedFromStr (bits : Nat) (src : List Char) : Option Int :=
  match src with
  | [] => none
  | ['+'] | ['-'] => none
  | '+' :: digits => (digitsValue digits).bind fun v =>
      if v < 2 ^ (bits - 1) then some v else none
  | '-' :: digits => (digitsValue digits).bind fun v =>
      if v ≤ 2 ^ (bits - 1) then some (-v) else none
  | digits => (digitsValue digits).bind fun v =>
      if v < 2 ^ (bits - 1) then some v else none

/-- `Display` of an unsigned integer. -/
def display (n : Nat) : List Char := Nat.toDigits 10 n

/-- `Display` of a signed integer. -/
def signedDisplay (v : Int) : List Char :=
  if v < 0 then '-' :: display v.natAbs else display v.toNat

def fromStrU16 (src : List Char) : Option UInt16 := (unsignedFromStr 16 src).map UInt16.ofNat

def fromStrU32 (src : List Char) : Option UInt32 := (unsignedFromStr 32 src).map UInt32.ofNat

def fromStrU64 (src : List Char) : Option UInt64 := (unsignedFromStr 64 src).map UInt64.ofNat

def fromStrI32 (src : List Char) : Option Int32 := (signedFromStr 32 src).map Int32.ofInt

theorem display_isDigit (n : Nat) : ∀ c ∈ display n, c.isDigit = true :=
  fun _ mem => Nat.isDigit_of_mem_toDigits (by decide) (by decide) mem

theorem digitsValue_display (n : Nat) : digitsValue (display n) = some n := by
  rw [digitsValue, if_pos (List.all_eq_true.mpr (display_isDigit n))]
  simp [display]

/-- A text that starts with a digit is read as its digits. -/
theorem unsignedFromStr_of_isDigit {bits : Nat} {c : Char} {cs : List Char}
    (digit : c.isDigit = true) :
    unsignedFromStr bits (c :: cs) = (digitsValue (c :: cs)).filter (· < 2 ^ bits) := by
  have plus : c ≠ '+' := by rintro rfl; contradiction
  have minus : c ≠ '-' := by rintro rfl; contradiction
  unfold unsignedFromStr
  split <;> simp_all

theorem signedFromStr_of_isDigit {bits : Nat} {c : Char} {cs : List Char}
    (digit : c.isDigit = true) :
    signedFromStr bits (c :: cs) = (digitsValue (c :: cs)).bind fun v =>
      if v < 2 ^ (bits - 1) then some (v : Int) else none := by
  have plus : c ≠ '+' := by rintro rfl; contradiction
  have minus : c ≠ '-' := by rintro rfl; contradiction
  unfold signedFromStr
  split <;> simp_all

theorem display_cons (n : Nat) : ∃ c cs, display n = c :: cs ∧ c.isDigit = true := by
  obtain ⟨c, cs, eq⟩ := List.exists_cons_of_ne_nil (Nat.toDigits_ne_nil (n := n) (b := 10))
  exact ⟨c, cs, eq, display_isDigit n c (by rw [display, eq]; exact List.mem_cons_self)⟩

theorem unsignedFromStr_display {bits n : Nat} (small : n < 2 ^ bits) :
    unsignedFromStr bits (display n) = some n := by
  obtain ⟨c, cs, eq, digit⟩ := display_cons n
  rw [eq, unsignedFromStr_of_isDigit digit, ← eq, digitsValue_display]
  simp [small]

theorem signedFromStr_signedDisplay {bits : Nat} {v : Int} (low : -2 ^ (bits - 1) ≤ v)
    (high : v < 2 ^ (bits - 1)) : signedFromStr bits (signedDisplay v) = some v := by
  have cast : ((2 ^ (bits - 1) : Nat) : Int) = 2 ^ (bits - 1) := by push_cast; rfl
  unfold signedDisplay
  split
  · case isTrue negative =>
    obtain ⟨c, cs, eq, -⟩ := display_cons v.natAbs
    have bound : v.natAbs ≤ 2 ^ (bits - 1) := by omega
    rw [eq]
    simp only [signedFromStr]
    rw [← eq, digitsValue_display, Option.bind_some, if_pos bound]
    congr 1
    omega
  · case isFalse nonnegative =>
    obtain ⟨c, cs, eq, digit⟩ := display_cons v.toNat
    have bound : v.toNat < 2 ^ (bits - 1) := by omega
    rw [eq, signedFromStr_of_isDigit digit, ← eq, digitsValue_display]
    simp only [Option.bind_some, if_pos bound]
    congr 1
    omega

theorem fromStrU16_display (n : UInt16) : fromStrU16 (display n.toNat) = some n := by
  simp [fromStrU16, unsignedFromStr_display n.toNat_lt]

theorem fromStrU32_display (n : UInt32) : fromStrU32 (display n.toNat) = some n := by
  simp [fromStrU32, unsignedFromStr_display n.toNat_lt]

theorem fromStrU64_display (n : UInt64) : fromStrU64 (display n.toNat) = some n := by
  simp [fromStrU64, unsignedFromStr_display n.toNat_lt]

theorem fromStrI32_display (e : Int32) : fromStrI32 (signedDisplay e.toInt) = some e := by
  have low := Int32.le_toInt e
  have high := Int32.toInt_lt e
  simp [fromStrI32, @signedFromStr_signedDisplay 32 _ (by simpa using low) (by simpa using high)]

/-- Leading zeros and a plus sign are read over; a minus sign is not a digit of an unsigned
value. -/
example : unsignedFromStr 16 "+0080".toList = some 80 ∧ unsignedFromStr 16 "-1".toList = none ∧
    unsignedFromStr 16 "65536".toList = none := by decide

end Libtelio.Lib.Decimal
