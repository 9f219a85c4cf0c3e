/- Curve25519 keys of `telio-crypto`: a public or secret key is its 32 bytes. -/

import Mathlib.Data.List.Lex
import Mathlib.Data.Vector.Basic

set_option autoImplicit false
set_option relaxedAutoImplicit false

namespace Libtelio.TelioCrypto

/-- `KEY_SIZE`: the length in bytes of every key. -/
def keySize : Nat := 32

/-- `PublicKey([u8; KEY_SIZE])`. -/
structure PublicKey where
  bytes : Vector UInt8 keySize
  deriving DecidableEq, Repr

/-- `SecretKey([u8; KEY_SIZE])`. -/
structure SecretKey where
  bytes : Vector UInt8 keySize
  deriving DecidableEq, Repr

/-- The key whose 32 bytes all equal `b`, as the source's tests build them (`[1; 32]`). -/
def PublicKey.filled (b : UInt8) : PublicKey := ⟨Vector.replicate keySize b⟩

/-- The secret key whose 32 bytes all equal `b`; `SecretKey::default()` is `filled 0`. -/
def SecretKey.filled (b : UInt8) : SecretKey := ⟨Vector.replicate keySize b⟩

/-- `PublicKey::try_from(Vec<u8>)`: exactly `KEY_SIZE` bytes. -/
def PublicKey.tryFrom (v : List UInt8) : Option PublicKey :=
  if h : v.length = keySize then some ⟨⟨v.toArray, by rw [List.size_toArray, h]⟩⟩ else none

/-- The bytes of a key as numbers, the sequence `derive(Ord)` compares. -/
def PublicKey.toNats (k : PublicKey) : List Nat :=
  k.bytes.toList.map UInt8.toNat

theorem PublicKey.toNats_injective : Function.Injective PublicKey.toNats := by
  rintro ⟨a⟩ ⟨b⟩ same
  have bytes : a.toList = b.toList :=
    (List.map_injective_iff.mpr fun x y h => UInt8.toNat_inj.mp h) same
  rw [Vector.toList_inj.mp bytes]

/-- The derived `Ord` of `PublicKey`: the bytes compared lexicographically. -/
instance : LinearOrder PublicKey :=
  LinearOrder.lift' PublicKey.toNats PublicKey.toNats_injective

end Libtelio.TelioCrypto
