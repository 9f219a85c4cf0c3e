/- The text of a key: `from_str`, `Display` and `LowerHex` of `gen_common!`, shared by
   `SecretKey` and `PublicKey` and used by their serde derives.

   `from_str` picks the decoder by the byte length of the text alone and decodes into a key of
   zeros: 64 bytes as hex, 44 as base64, whose count of decoded bytes it drops. A key's own
   texts read back as the key; but a 44-byte text with two padding characters decodes to 31
   bytes and is taken for a key ending in a zero it never had, and one with none decodes to 33
   and panics in `decode_config_slice`. -/

import Libtelio.TelioCrypto.Key
import Libtelio.Lib.Base64
import Libtelio.Lib.Hex

set_option autoImplicit false
set_option relaxedAutoImplicit false

namespace Libtelio.TelioCrypto

open Libtelio.Lib

inductive KeyDecodeError
  | invalidLength (l : Nat)
  | base64 (e : Base64.DecodeError)
  | hex (e : Hex.FromHexError)
  deriving DecidableEq, Repr

/-- `from_str` for the 32 bytes of either key, over the bytes of the text; `none` is the panic
of `decode_config_slice`. -/
def keyFromStr (s : List UInt8) : Option (Except KeyDecodeError (Vector UInt8 keySize)) :=
  let key : Vector UInt8 keySize := Vector.replicate keySize 0
  match s.length with
  | 64 => some ((Hex.decodeToSlice s key).mapError .hex)
  | 44 => (Base64.decodeConfigSlice s key).map fun decoded =>
      (decoded.map Prod.snd).mapError .base64
  | l => some (.error (.invalidLength l))

/-- `fmt` of `Display`: the padded base64 text written into a buffer of 44 bytes; `none` is the
panic of `encode_config_slice`. -/
def keyDisplay (bytes : Vector UInt8 keySize) : Option (List UInt8) :=
  (Base64.encodeConfigSlice bytes.toList (Vector.replicate 44 0)).map fun written =>
    written.2.toList

/-- `fmt` of `LowerHex`: the digits written into a buffer of 64 bytes; `none` is `fmt::Error`. -/
def keyLowerHex (bytes : Vector UInt8 keySize) : Option (List UInt8) :=
  match Hex.encodeToSlice bytes.toList (Vector.replicate 64 0) with
  | .ok buf => some buf.toList
  | .error _ => none

def SecretKey.fromStr (s : List UInt8) : Option (Except KeyDecodeError SecretKey) :=
  (keyFromStr s).map (·.map SecretKey.mk)

def PublicKey.fromStr (s : List UInt8) : Option (Except KeyDecodeError PublicKey) :=
  (keyFromStr s).map (·.map PublicKey.mk)

def SecretKey.display (k : SecretKey) : Option (List UInt8) := keyDisplay k.bytes

def PublicKey.display (k : PublicKey) : Option (List UInt8) := keyDisplay k.bytes

def SecretKey.lowerHex (k : SecretKey) : Option (List UInt8) := keyLowerHex k.bytes

def PublicKey.lowerHex (k : PublicKey) : Option (List UInt8) := keyLowerHex k.bytes

section RoundTrip

variable (bytes : Vector UInt8 keySize)

private theorem base64_length : (Base64.encode bytes.toList).length = 44 := by
  rw [Base64.encode_length, Vector.length_toList]
  rfl

private theorem hex_length : (Hex.encode bytes.toList).length = 64 := by
  rw [Hex.encode_length, Vector.length_toList]
  rfl

theorem keyDisplay_eq : keyDisplay bytes = some (Base64.encode bytes.toList) := by
  simp only [keyDisplay, Base64.encodeConfigSlice, base64_length, Nat.lt_irrefl, ↓reduceIte,
    Option.map_some, Option.some.injEq]
  apply List.ext_getElem (by simp [base64_length])
  intro i small _
  simp at small
  simp [base64_length]

theorem keyLowerHex_eq : keyLowerHex bytes = some (Hex.encode bytes.toList) := by
  have written := Hex.encodeToSlice_ok bytes.toList (Vector.replicate 64 0)
    (by rw [Vector.length_toList]; rfl)
  unfold keyLowerHex
  cases encoded : Hex.encodeToSlice bytes.toList (Vector.replicate 64 0) with
  | error e => simp [encoded, Except.map] at written
  | ok buf => simpa [encoded, Except.map] using written

theorem keyFromStr_base64 : keyFromStr (Base64.encode bytes.toList) = some (.ok bytes) := by
  unfold keyFromStr
  rw [base64_length]
  simp only [Base64.decodeConfigSlice, Base64.decode_encode, Vector.length_toList,
    Nat.lt_irrefl, ↓reduceIte, Option.map_some]
  simp only [Except.map, Except.mapError, Option.some.injEq, Except.ok.injEq]
  ext i small
  simp

theorem keyFromStr_hex : keyFromStr (Hex.encode bytes.toList) = some (.ok bytes) := by
  unfold keyFromStr
  rw [hex_length]
  simp [Hex.decodeToSlice_encode, Except.mapError]

end RoundTrip

/-- Each key reads back from its base64 text and from its hex text. -/
theorem SecretKey.fromStr_display (k : SecretKey) :
    k.display = some (Base64.encode k.bytes.toList) ∧
      SecretKey.fromStr (Base64.encode k.bytes.toList) = some (.ok k) ∧
      k.lowerHex = some (Hex.encode k.bytes.toList) ∧
      SecretKey.fromStr (Hex.encode k.bytes.toList) = some (.ok k) := by
  simp [SecretKey.display, SecretKey.lowerHex, SecretKey.fromStr, keyDisplay_eq, keyLowerHex_eq,
    keyFromStr_base64, keyFromStr_hex, Except.map]

theorem PublicKey.fromStr_display (k : PublicKey) :
    k.display = some (Base64.encode k.bytes.toList) ∧
      PublicKey.fromStr (Base64.encode k.bytes.toList) = some (.ok k) ∧
      k.lowerHex = some (Hex.encode k.bytes.toList) ∧
      PublicKey.fromStr (Hex.encode k.bytes.toList) = some (.ok k) := by
  simp [PublicKey.display, PublicKey.lowerHex, PublicKey.fromStr, keyDisplay_eq, keyLowerHex_eq,
    keyFromStr_base64, keyFromStr_hex, Except.map]

theorem base64_key_length_unchecked :
    SecretKey.fromStr (List.replicate 42 65 ++ [61, 61]) = some (.ok (SecretKey.filled 0)) ∧
      SecretKey.display (SecretKey.filled 0) ≠ some (List.replicate 42 65 ++ [61, 61]) ∧
      PublicKey.fromStr (List.replicate 44 65) = none := by
  decide

end Libtelio.TelioCrypto
