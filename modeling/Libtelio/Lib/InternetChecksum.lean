/- The Internet checksum (RFC 1071), as `pnet_packet::util` computes it.

   The data's big-endian 16-bit words are summed, skipping the word that holds the checksum and
   reading an odd last byte as the high byte of a word; the carries are folded back in and the
   sum is complemented. A transport checksum adds the IPv4 pseudo-header to the sum: both
   addresses, the protocol and the length. A verifier skips the same word, so writing the
   checksum into that word leaves its input unchanged (`sumBeWords_write_skipped`).

   The sums are natural numbers. `pnet` adds in a `u32`, which agrees with them on data shorter
   than 2 ^ 17 bytes. -/

import Libtelio.Lib.Buffer

set_option autoImplicit false
set_option relaxedAutoImplicit false

namespace Libtelio.Lib.InternetChecksum

open Libtelio.Lib.Buffer

/-- `sum_be_words` from word `i` on. -/
def sumWordsFrom (skipword : Nat) : Nat → List UInt8 → Nat
  | i, hi :: lo :: rest =>
    (if i ≠ skipword then hi.toNat * 256 + lo.toNat else 0) + sumWordsFrom skipword (i + 1) rest
  | i, [hi] => if i ≠ skipword then hi.toNat * 256 else 0
  | _, [] => 0

/-- `sum_be_words(data, skipword)`. -/
def sumBeWords (data : List UInt8) (skipword : Nat) : Nat :=
  sumWordsFrom skipword 0 data

/-- The loop of `finalize_checksum`, for at most `rounds` rounds:
`sum = (sum >> 16) + (sum & 0xffff)` while a carry is left. -/
def foldCarriesFor : Nat → Nat → Nat
  | 0, sum => sum
  | rounds + 1, sum =>
    if sum >>> 16 = 0 then sum else foldCarriesFor rounds ((sum >>> 16) + (sum &&& 0xffff))

/-- Every round lowers the sum, so `sum` rounds are enough (`foldCarries_lt`). -/
def foldCarries (sum : Nat) : Nat :=
  foldCarriesFor sum sum

/-- `finalize_checksum`: `!sum as u16` of the folded sum. -/
def finalizeChecksum (sum : Nat) : UInt16 :=
  ~~~(UInt16.ofNat (foldCarries sum))

/-- `util::checksum`. -/
def checksum (data : List UInt8) (skipword : Nat) : UInt16 :=
  if data.isEmpty then 0 else finalizeChecksum (sumBeWords data skipword)

/-- `ipv4_word_sum`: the two words of an address. -/
def ipv4WordSum (addr : UInt32) : Nat :=
  addr.toNat / 65536 + addr.toNat % 65536

/-- `util::ipv4_checksum`: the data's words and the pseudo-header. -/
def ipv4Checksum (data : List UInt8) (skipword : Nat) (extraData : List UInt8)
    (source destination : UInt32) (nextLevelProtocol : UInt8) : UInt16 :=
  finalizeChecksum (ipv4WordSum source + ipv4WordSum destination + nextLevelProtocol.toNat +
    (data.length + extraData.length) + sumBeWords data skipword +
    sumBeWords extraData (extraData.length / 2))

theorem foldCarriesFor_lt (rounds sum : Nat) (enough : sum < rounds + 65536) :
    foldCarriesFor rounds sum < 65536 := by
  induction rounds generalizing sum with
  | zero => exact enough
  | succ rounds ih =>
    rw [foldCarriesFor, Nat.shiftRight_eq_div_pow]
    split
    · omega
    · -- a round replaces the sum by its high and low halves, which is less
      have low : sum &&& 0xffff = sum % 2 ^ 16 := Nat.and_two_pow_sub_one_eq_mod sum 16
      apply ih
      omega

/-- The fold ends with no carry left. -/
theorem foldCarries_lt (sum : Nat) : foldCarries sum < 65536 :=
  foldCarriesFor_lt sum sum (by omega)

/-- Setting a byte of the skipped word leaves the sum alone. -/
theorem sumWordsFrom_set_skipped (skipword i : Nat) (data : List UInt8) (j : Nat) (b : UInt8)
    (skipped : skipword = i + j / 2) :
    sumWordsFrom skipword i (data.set j b) = sumWordsFrom skipword i data := by
  induction i, data using sumWordsFrom.induct skipword generalizing j with
  | case1 i hi lo rest ih =>
    -- the byte is one of this word's, or lies in the rest
    match j with
    | 0 => simp [sumWordsFrom, show i = skipword by omega]
    | 1 => simp [sumWordsFrom, show i = skipword by omega]
    | j + 2 =>
      rw [List.set_cons_succ, List.set_cons_succ, sumWordsFrom, sumWordsFrom, ih j (by omega)]
  | case2 i hi kept =>
    -- a last byte outside the skipped word: the byte set is past the end
    match j with
    | 0 => omega
    | j + 1 => rw [List.set_cons_succ, List.set_nil]
  | case3 i hi skippedLast =>
    match j with
    | 0 => simp [sumWordsFrom, skippedLast]
    | j + 1 => rw [List.set_cons_succ, List.set_nil]
  | case4 i => rfl

theorem sumBeWords_write_skipped (data : List UInt8) (skipword : Nat) (hi lo : UInt8) :
    sumBeWords (write data (2 * skipword) [hi, lo]) skipword = sumBeWords data skipword := by
  rw [write, write, write, sumBeWords, sumBeWords, sumWordsFrom_set_skipped _ _ _ _ _ (by omega),
    sumWordsFrom_set_skipped _ _ _ _ _ (by omega)]

theorem checksum_write_skipped (data : List UInt8) (skipword : Nat) (hi lo : UInt8) :
    checksum (write data (2 * skipword) [hi, lo]) skipword = checksum data skipword := by
  have sameLength := length_write data (2 * skipword) [hi, lo]
  simp only [checksum, List.isEmpty_iff_length_eq_zero, sameLength, sumBeWords_write_skipped]

theorem ipv4Checksum_write_skipped (data : List UInt8) (skipword : Nat) (hi lo : UInt8)
    (extraData : List UInt8) (source destination : UInt32) (nextLevelProtocol : UInt8) :
    ipv4Checksum (write data (2 * skipword) [hi, lo]) skipword extraData source destination
        nextLevelProtocol =
      ipv4Checksum data skipword extraData source destination nextLevelProtocol := by
  simp only [ipv4Checksum, length_write, sumBeWords_write_skipped]

end Libtelio.Lib.InternetChecksum
