/- The encryption of control messages that `DerpRelay` sends through the relay server
   (`derp/mod.rs`), and what it does with the packets `start_read` hands it.

   A WireGuard data packet passes through as it is; any other packet is sealed in a box of the
   two peers' keys under a fresh nonce and sent as `[Encrypted] ++ nonce ++ ciphertext`.
   `crypto_box` is a parameter: the two directions of the box and the nonce generator, with only
   the box's own round trip assumed. Both routines read `data[0]` first; `none` is the panic
   that read is on an empty packet. -/

import Libtelio.TelioProto.Packet
import Libtelio.TelioRelay.Derp.Proto

set_option autoImplicit false
set_option relaxedAutoImplicit false

namespace Libtelio.TelioRelay.Derp

open Libtelio.TelioCrypto Libtelio.TelioProto

/-- `aead::Error`, which carries nothing. -/
structure AeadError where
  deriving DecidableEq, Repr

/-- `NONCE_SIZE`: a `ChaChaBox` nonce is 24 bytes. -/
def nonceSize : Nat := 24

/-- What the relay uses of `crypto_box`: `ChaChaBox::new(public_key, secret_key)` with its
`encrypt` and `decrypt` under empty associated data, `generate_nonce` over a generator, and
`SecretKey::public` (as `toPublic`). -/
structure ChaChaBox (Rng : Type) where
  encrypt : PublicKey → SecretKey → Vector UInt8 nonceSize → List UInt8 →
    Except AeadError (List UInt8)
  decrypt : PublicKey → SecretKey → Vector UInt8 nonceSize → List UInt8 →
    Except AeadError (List UInt8)
  generateNonce : Rng → Vector UInt8 nonceSize × Rng
  toPublic : SecretKey → PublicKey

namespace DerpRelay

def NONCE_BEGIN_POS : Nat := 1
def NONCE_END_POS : Nat := nonceSize + 1

/-- `<[u8]>::get(start..stop)`. -/
def getRange (data : List UInt8) (start stop : Nat) : Option (List UInt8) :=
  if start ≤ stop ∧ stop ≤ data.length then some ((data.drop start).take (stop - start))
  else none

/-- `GenericArray::clone_from_slice`, which panics unless the slice is a nonce long. -/
def nonceOfSlice (slice : List UInt8) : Option (Vector UInt8 nonceSize) :=
  if h : slice.length = nonceSize then some ⟨slice.toArray, by simpa using h⟩ else none

variable {Rng : Type} (box : ChaChaBox Rng)

/-- `decrypt_if_needed`: a data packet as it is, an encrypted one opened from its nonce and
ciphertext, anything else refused. -/
def decryptIfNeeded (secretKey : SecretKey) (publicKey : PublicKey) (data : List UInt8) :
    Option (Except AeadError (List UInt8)) := do
  let first ← data.head?
  let packetType := PacketType.fromU8 first
  if packetType = PacketType.data then
    return .ok data
  else if packetType = PacketType.encrypted then
    match getRange data NONCE_BEGIN_POS NONCE_END_POS with
    | none => return .error ⟨⟩
    | some slice =>
      let nonce ← nonceOfSlice slice
      match getRange data NONCE_END_POS data.length with
      | none => return .error ⟨⟩
      | some cipherText => return box.decrypt publicKey secretKey nonce cipherText
  else
    return .error ⟨⟩

end DerpRelay

/-- One message as `crypto_box` seals it from a sender to a receiver under one nonce, with the
X25519 public keys of both keys: what the box computes on these inputs. -/
structure BoxTable where
  sender : SecretKey
  receiver : SecretKey
  senderPublic : PublicKey
  receiverPublic : PublicKey
  nonce : Vector UInt8 nonceSize
  msg : List UInt8
  cipherText : List UInt8

/-- The box of a table: it seals the table's message for its receiver and opens the table's
ciphertext, and fails on every other input; its generator draws the table's nonce, and the keys
outside the table have the zero key for public key. -/
def BoxTable.box (t : BoxTable) : ChaChaBox Unit where
  encrypt publicKey secretKey nonce msg :=
    if publicKey = t.receiverPublic ∧ secretKey = t.sender ∧ nonce = t.nonce ∧ msg = t.msg then
      .ok t.cipherText
    else .error ⟨⟩
  decrypt publicKey secretKey nonce cipherText :=
    if publicKey = t.senderPublic ∧ secretKey = t.receiver ∧ nonce = t.nonce ∧
        cipherText = t.cipherText then .ok t.msg
    else .error ⟨⟩
  generateNonce rng := (t.nonce, rng)
  toPublic secretKey :=
    if secretKey = t.sender then t.senderPublic
    else if secretKey = t.receiver then t.receiverPublic
    else PublicKey.filled 0

/-- A received packet frame carrying `payload`. -/
def recvPacketFrame (payload : List UInt8) : List UInt8 :=
  FrameType.recvPacket.toU8 :: u32ToBeBytes (UInt32.ofNat payload.length) ++ payload

/-- A packet of 31 bytes panics `start_read` at the key's drain; one of exactly a key's 32 bytes
is forwarded with an empty rest (or panics at the trace glance), on which `decrypt_if_needed`
panics. -/
theorem short_recv_packet_panics {Rng : Type} (box : ChaChaBox Rng) (secretKey : SecretKey) :
    (startRead false (recvPacketFrame (List.replicate 31 1))).2 = .panic ∧
      startRead false (recvPacketFrame (List.replicate keySize 1)) =
        ([(PublicKey.filled 1, [])], .error .unexpectedEof) ∧
      (startRead true (recvPacketFrame (List.replicate keySize 1))).2 = .panic ∧
      DerpRelay.decryptIfNeeded box secretKey (PublicKey.filled 1) [] = none := by
  have short : readFrame (recvPacketFrame (List.replicate 31 1)) =
      .ok ((.recvPacket, List.replicate 31 1), []) := by decide
  have keyOnly : readFrame (recvPacketFrame (List.replicate keySize 1)) =
      .ok ((.recvPacket, List.replicate keySize 1), []) := by decide
  have ended : startRead false [] = ([], .error .unexpectedEof) := startRead_of_error rfl
  refine ⟨?_, ?_, ?_, rfl⟩
  · rw [startRead_of_frame short]
    rfl
  · rw [startRead_of_frame keyOnly]
    simp only [keySize, List.length_replicate, le_refl, ↓reduceDIte, Bool.false_and,
      Bool.false_eq_true, ↓reduceIte, ended]
    decide
  · rw [startRead_of_frame keyOnly]
    simp [keySize]

end Libtelio.TelioRelay.Derp
