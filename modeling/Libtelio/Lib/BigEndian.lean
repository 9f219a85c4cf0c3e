/- Big-endian byte strings of natural numbers.

   `toBytes w n` writes the low `w` bytes of `n`, most significant first; `ofBytes` reads a
   byte string back the same way. The two are inverse on numbers below `256 ^ w` and on byte
   strings of length `w`, which is what every fixed-width network header field relies on. -/

import Mathlib.Algebra.Order.Group.Nat
import Mathlib.Data.List.Induction

set_option autoImplicit false
set_option relaxedAutoImplicit false

namespace Libtelio.Lib.BigEndian

/-- The low `w` bytes of `n`, most significant first. -/
def toBytes : Nat → Nat → List UInt8
  | 0, _ => []
  | w + 1, n => toBytes w (n / 256) ++ [UInt8.ofNat (n % 256)]

/-- The number a byte string denotes, most significant byte first. -/
def ofBytes (bs : List UInt8) : Nat :=
  bs.foldl (fun acc b => acc * 256 + b.toNat) 0

@[simp] theorem toBytes_length (w n : Nat) : (toBytes w n).length = w := by
  induction w generalizing n with
  | zero => rfl
  | succ w ih => simp [toBytes, ih]

/-- The two bytes of a `u16` field, high byte first. -/
theorem toBytes_two (n : Nat) : toBytes 2 n = [UInt8.ofNat (n / 256 % 256), UInt8.ofNat (n % 256)] :=
  rfl

@[simp] theorem ofBytes_nil : ofBytes [] = 0 := rfl

@[simp] theorem ofBytes_append_singleton (bs : List UInt8) (b : UInt8) :
    ofBytes (bs ++ [b]) = ofBytes bs * 256 + b.toNat := by
  simp [ofBytes, List.foldl_append]

theorem ofBytes_lt (bs : List UInt8) : ofBytes bs < 256 ^ bs.length := by
  induction bs using List.reverseRecOn with
  | nil => simp
  | append_singleton bs b ih =>
    have byte : b.toNat < 256 := b.toNat_lt
    rw [ofBytes_append_singleton, List.length_append, List.length_singleton, Nat.pow_succ]
    omega

/-- Reading back what was written recovers every number that fits in the width. -/
theorem ofBytes_toBytes (w n : Nat) (fits : n < 256 ^ w) : ofBytes (toBytes w n) = n := by
  induction w generalizing n with
  | zero => simp_all [toBytes]
  | succ w ih =>
    have high : n / 256 < 256 ^ w := by
      rw [Nat.pow_succ] at fits
      omega
    have low : (UInt8.ofNat (n % 256)).toNat = n % 256 := by
      rw [UInt8.toNat_ofNat']
      omega
    rw [toBytes, ofBytes_append_singleton, ih _ high, low]
    omega

/-- What is read back is the number modulo the width. -/
theorem ofBytes_toBytes_mod (w n : Nat) : ofBytes (toBytes w n) = n % 256 ^ w := by
  induction w generalizing n with
  | zero => simp [toBytes, Nat.mod_one]
  | succ w ih =>
    have low : (UInt8.ofNat (n % 256)).toNat = n % 256 := by
      rw [UInt8.toNat_ofNat']
      omega
    rw [toBytes, ofBytes_append_singleton, ih, low, Nat.pow_succ, Nat.mul_comm (256 ^ w),
      Nat.mod_mul]
    omega

/-- Writing back what was read recovers every byte string of the width. -/
theorem toBytes_ofBytes (bs : List UInt8) : toBytes bs.length (ofBytes bs) = bs := by
  induction bs using List.reverseRecOn with
  | nil => rfl
  | append_singleton bs b ih =>
    have byte : b.toNat < 256 := b.toNat_lt
    have high : (ofBytes bs * 256 + b.toNat) / 256 = ofBytes bs := by omega
    have low : UInt8.ofNat ((ofBytes bs * 256 + b.toNat) % 256) = b := by
      rw [show (ofBytes bs * 256 + b.toNat) % 256 = b.toNat by omega]
      exact UInt8.ofNat_toNat
    rw [List.length_append, List.length_singleton, toBytes, ofBytes_append_singleton, high,
      ih, low]

end Libtelio.Lib.BigEndian
