/- Base64 with the standard alphabet and `=` padding (RFC 4648 §4), over the bytes of the text.

   Three bytes make a 24-bit group, written as four characters of six bits each; a last group of
   one or two bytes is written as two or three characters and padded to four. Decoding reads the
   groups back, allowing padding in the last group only and refusing a last character whose bits
   past the data are not zero, so that every accepted text is the encoding of what it decodes
   to. The group arithmetic is on `Nat`, where `omega` proves the regrouping. -/

import Mathlib.Tactic.IntervalCases

set_option autoImplicit false
set_option relaxedAutoImplicit false

namespace Libtelio.Lib.Base64

/-- The character of a six-bit value: `A-Z`, `a-z`, `0-9`, `+`, `/`. -/
def encodeSextet (v : Nat) : UInt8 :=
  if v < 26 then UInt8.ofNat (65 + v)
  else if v < 52 then UInt8.ofNat (71 + v)
  else if v < 62 then UInt8.ofNat (v - 4)
  else if v = 62 then 43
  else 47

/-- The six-bit value of a character of the alphabet. -/
def decodeSextet (c : UInt8) : Option Nat :=
  if 65 ≤ c ∧ c ≤ 90 then some (c.toNat - 65)
  else if 97 ≤ c ∧ c ≤ 122 then some (c.toNat - 71)
  else if 48 ≤ c ∧ c ≤ 57 then some (c.toNat + 4)
  else if c = 43 then some 62
  else if c = 47 then some 63
  else none

/-- `=`. -/
def pad : UInt8 := 61

/-- The four characters of a 24-bit group. -/
def encodeGroup (n : Nat) : List UInt8 :=
  [encodeSextet (n / 262144 % 64), encodeSextet (n / 4096 % 64), encodeSextet (n / 64 % 64),
    encodeSextet (n % 64)]

def encode : List UInt8 → List UInt8
  | [] => []
  | [a] => (encodeGroup (a.toNat * 65536)).take 2 ++ [pad, pad]
  | [a, b] => (encodeGroup (a.toNat * 65536 + b.toNat * 256)).take 3 ++ [pad]
  | a :: b :: c :: rest => encodeGroup (a.toNat * 65536 + b.toNat * 256 + c.toNat) ++ encode rest

/-- The three bytes of a 24-bit group. -/
def groupBytes (n : Nat) : List UInt8 :=
  [UInt8.ofNat (n / 65536), UInt8.ofNat (n / 256 % 256), UInt8.ofNat (n % 256)]

/-- One group of four characters; only the `last` may be padded. -/
def decodeQuad (a b c d : UInt8) (last : Bool) : Option (List UInt8) := do
  let va ← decodeSextet a
  let vb ← decodeSextet b
  if last && c = pad && d = pad then
    -- one byte: the low four bits of the second character are past the data
    if vb % 16 = 0 then some [UInt8.ofNat (va * 4 + vb / 16)] else none
  else
    let vc ← decodeSextet c
    if last && d = pad then
      if vc % 4 = 0 then some ((groupBytes (va * 262144 + vb * 4096 + vc * 64)).take 2) else none
    else
      let vd ← decodeSextet d
      some (groupBytes (va * 262144 + vb * 4096 + vc * 64 + vd))

def decode : List UInt8 → Option (List UInt8)
  | [] => some []
  | [a, b, c, d] => decodeQuad a b c d true
  | a :: b :: c :: d :: rest => do
    let group ← decodeQuad a b c d false
    let tail ← decode rest
    some (group ++ tail)
  | _ => none

/-- A rejected text: the crate's `DecodeError`, whose byte and offset are not modelled. -/
structure DecodeError where
  deriving DecidableEq, Repr

/-- `encode_config_slice` with the padded standard alphabet: the text over a prefix of the
output and its length; `none` is the panic of an output shorter than the text. -/
def encodeConfigSlice {n : Nat} (input : List UInt8) (out : Vector UInt8 n) :
    Option (Nat × Vector UInt8 n) :=
  let text := encode input
  if n < text.length then none
  else some (text.length, Vector.ofFn fun i => text.getD i out[i])

/-- `decode_config_slice` with the padded standard alphabet: the bytes over a prefix of the
output and their count; `none` is the panic of an output shorter than the bytes. -/
def decodeConfigSlice {n : Nat} (input : List UInt8) (out : Vector UInt8 n) :
    Option (Except DecodeError (Nat × Vector UInt8 n)) :=
  match decode input with
  | none => some (.error ⟨⟩)
  | some bytes =>
    if n < bytes.length then none
    else some (.ok (bytes.length, Vector.ofFn fun i => bytes.getD i out[i]))

theorem decodeSextet_encodeSextet {v : Nat} (small : v < 64) :
    decodeSextet (encodeSextet v) = some v := by
  interval_cases v <;> rfl

theorem encodeSextet_ne_pad {v : Nat} (small : v < 64) : encodeSextet v ≠ pad := by
  interval_cases v <;> decide

theorem decodeSextet_encodeSextet_mod (n : Nat) :
    decodeSextet (encodeSextet (n % 64)) = some (n % 64) :=
  decodeSextet_encodeSextet (Nat.mod_lt n (by decide))

theorem encodeSextet_mod_ne_pad (n : Nat) : encodeSextet (n % 64) ≠ pad :=
  encodeSextet_ne_pad (Nat.mod_lt n (by decide))

theorem encode_length (bytes : List UInt8) : (encode bytes).length = 4 * ((bytes.length + 2) / 3) := by
  fun_induction encode bytes <;> simp_all [encodeGroup]; omega

theorem encode_eq_nil {bytes : List UInt8} : encode bytes = [] ↔ bytes = [] := by
  constructor
  · intro empty
    have := encode_length bytes
    rw [empty] at this
    cases bytes with
    | nil => rfl
    | cons _ _ => simp at this; omega
  · rintro rfl
    rfl

section Groups

variable (a b c : UInt8)

/-- A whole group reads back as its three bytes, padded or not. -/
theorem decodeQuad_group (last : Bool) :
    decodeQuad (encodeSextet ((a.toNat * 65536 + b.toNat * 256 + c.toNat) / 262144 % 64))
      (encodeSextet ((a.toNat * 65536 + b.toNat * 256 + c.toNat) / 4096 % 64))
      (encodeSextet ((a.toNat * 65536 + b.toNat * 256 + c.toNat) / 64 % 64))
      (encodeSextet ((a.toNat * 65536 + b.toNat * 256 + c.toNat) % 64)) last = some [a, b, c] := by
  have ha := a.toNat_lt
  have hb := b.toNat_lt
  have hc := c.toNat_lt
  simp only [decodeQuad, decodeSextet_encodeSextet_mod, encodeSextet_mod_ne_pad,
    Option.bind_eq_bind, Option.bind_some, Bool.and_false, Bool.false_eq_true, ↓reduceIte,
    decide_false]
  simp only [groupBytes, List.cons.injEq, and_true, Option.some.injEq]
  refine ⟨?_, ?_, ?_⟩ <;> apply UInt8.toNat.inj <;> simp <;> omega

theorem decodeQuad_two :
    decodeQuad (encodeSextet ((a.toNat * 65536 + b.toNat * 256) / 262144 % 64))
      (encodeSextet ((a.toNat * 65536 + b.toNat * 256) / 4096 % 64))
      (encodeSextet ((a.toNat * 65536 + b.toNat * 256) / 64 % 64)) pad true = some [a, b] := by
  have ha := a.toNat_lt
  have hb := b.toNat_lt
  simp only [decodeQuad, decodeSextet_encodeSextet_mod, encodeSextet_mod_ne_pad,
    Option.bind_eq_bind, Option.bind_some, Bool.and_false, Bool.false_and, Bool.true_and,
    Bool.false_eq_true, ↓reduceIte, decide_false, decide_true]
  rw [if_pos (by omega)]
  simp only [groupBytes, List.take_succ_cons, List.take_zero, Option.some.injEq, List.cons.injEq,
    and_true]
  refine ⟨?_, ?_⟩ <;> apply UInt8.toNat.inj <;> simp <;> omega

theorem decodeQuad_one :
    decodeQuad (encodeSextet (a.toNat * 65536 / 262144 % 64))
      (encodeSextet (a.toNat * 65536 / 4096 % 64)) pad pad true = some [a] := by
  have ha := a.toNat_lt
  simp only [decodeQuad, decodeSextet_encodeSextet_mod, Option.bind_eq_bind, Option.bind_some,
    Bool.true_and, decide_true, ↓reduceIte]
  rw [if_pos (by omega)]
  simp only [Option.some.injEq, List.cons.injEq, and_true]
  apply UInt8.toNat.inj
  simp
  omega

end Groups

/-- Base64 round trip: every byte string decodes back from its encoding. -/
theorem decode_encode (bytes : List UInt8) : decode (encode bytes) = some bytes := by
  fun_induction encode bytes with
  | case1 => rfl
  | case2 a => exact decodeQuad_one a
  | case3 a b => exact decodeQuad_two a b
  | case4 a b c rest ih =>
    cases empty : encode rest with
    | nil =>
      -- the last group is whole, and read as the last
      rw [encode_eq_nil.mp empty]
      exact decodeQuad_group a b c true
    | cons x more =>
      rw [empty] at ih
      simp only [encodeGroup, List.cons_append, List.nil_append, decode, decodeQuad_group a b c false,
        ih, Option.bind_eq_bind, Option.bind_some, List.cons_append, List.nil_append]

end Libtelio.Lib.Base64
