/- The wire codec of telio packets (`packet/mod.rs` and the codecs of `pinger.rs`, `natter.rs`
   and `nurse.rs`).

   A packet starts with its type byte. A data packet is the `DataMsg` bytes; the pingers add a
   big-endian two-byte port or peer id; every other packet is the type byte followed by its
   protobuf message. The protobuf runtime is a parameter, of which only its own round trip is
   assumed. Over it the codec round trips for every packet whose data message is well formed,
   and re-encoding what was decoded gives back a packet that decodes the same, for data packets
   the very bytes (`packet_codec_roundtrip`). -/

import Libtelio.TelioProto.DataSpec

set_option autoImplicit false
set_option relaxedAutoImplicit false

namespace Libtelio.TelioProto

open Libtelio.Lib.BigEndian

/-- `WGPort(u16)`. -/
structure WGPort where
  port : UInt16
  deriving DecidableEq, Repr

/-- `WGPort::try_from(&[u8])`: exactly two bytes, `u16::from_be_bytes`. -/
def WGPort.tryFrom (bytes : List UInt8) : Option WGPort :=
  if bytes.length = 2 then some ⟨UInt16.ofNat (ofBytes bytes)⟩ else none

@[simp] theorem WGPort.tryFrom_toBytes (wgPort : WGPort) :
    WGPort.tryFrom (toBytes 2 wgPort.port.toNat) = some wgPort := by
  have fits : wgPort.port.toNat < 256 ^ 2 := wgPort.port.toNat_lt
  simp [WGPort.tryFrom, ofBytes_toBytes 2 _ fits]

/-! The protobuf messages of `protos/*.proto`. -/

/-- `Pinger`. -/
structure Pinger where
  messageType : PingerType
  session : Session
  startTimestamp : Timestamp
  deriving DecidableEq, Repr

/-- `CallMeMaybe_Type`. -/
inductive CallMeMaybeType
  | initiator
  | responder
  deriving DecidableEq, Repr

/-- `CallMeMaybe`: the sender's addresses as the strings it wrote. -/
structure CallMeMaybe where
  iAm : CallMeMaybeType
  myAddresses : List String
  session : Session
  deriving DecidableEq, Repr

/-- `Heartbeat_Type`. -/
inductive HeartbeatType
  | request
  | response
  deriving DecidableEq, Repr

/-- `Heartbeat_Status`. -/
structure HeartbeatStatus where
  node : List UInt8
  connectionState : UInt32
  deriving DecidableEq, Repr

/-- `Heartbeat`. -/
structure Heartbeat where
  messageType : HeartbeatType
  meshnetId : List UInt8
  nodeFingerprint : String
  statuses : List HeartbeatStatus
  deriving DecidableEq, Repr

/-- What the codec uses of the `protobuf` runtime for one generated message:
`parse_from_bytes`, and the bytes `write_to_vec` appends. -/
structure ProtobufMessage (M : Type) where
  parseFromBytes : List UInt8 → Except Unit M
  writeToVec : M → Except Unit (List UInt8)

/-- The runtime reads back what it writes. -/
def ProtobufMessage.RoundTrips {M : Type} (pb : ProtobufMessage M) : Prop :=
  ∀ msg bytes, pb.writeToVec msg = .ok bytes → pb.parseFromBytes bytes = .ok msg

/-- The runtime of each message a packet carries. The deprecated call-me-maybe message is the
record the traversal code reads it as. -/
structure Protobuf where
  pinger : ProtobufMessage Pinger
  callMeMaybe : ProtobufMessage CallMeMaybe
  callMeMaybeDeprecated : ProtobufMessage CallMeMaybeMsgDeprecated
  heartbeat : ProtobufMessage Heartbeat

def Protobuf.RoundTrips (pb : Protobuf) : Prop :=
  pb.pinger.RoundTrips ∧ pb.callMeMaybe.RoundTrips ∧ pb.callMeMaybeDeprecated.RoundTrips ∧
    pb.heartbeat.RoundTrips

/-- `PingerMsg`. -/
structure PingerMsg where
  wgPort : WGPort
  msg : Pinger
  deriving DecidableEq, Repr

/-- `PingerMsg::ping`: a request carrying its session and the sender's timestamp. -/
def PingerMsg.ping (wgPort : WGPort) (session : Session) (ts : Timestamp) : PingerMsg :=
  ⟨wgPort, ⟨.ping, session, ts⟩⟩

/-- `PingerMsg::pong`: the reply to a ping, echoing its session and timestamp. -/
def PingerMsg.pong (self : PingerMsg) (wgPort : WGPort) : Option PingerMsg :=
  if self.msg.messageType = .ping then
    some ⟨wgPort, ⟨.pong, self.msg.session, self.msg.startTimestamp⟩⟩
  else none

/-- `CallMeMaybeMsg(CallMeMaybe)`. -/
structure CallMeMaybeMsg where
  msg : CallMeMaybe
  deriving DecidableEq, Repr

/-- `HeartbeatMessage(Heartbeat)`. -/
structure HeartbeatMessage where
  msg : Heartbeat
  deriving DecidableEq, Repr

/-- The `Pinger` message of a deprecated pinger packet, and the packet of one. -/
def PingerMsgDeprecated.msg (self : PingerMsgDeprecated) : Pinger :=
  ⟨self.messageType, self.session, self.startTimestamp⟩

def PingerMsgDeprecated.ofMsg (peerId : PeerId) (msg : Pinger) : PingerMsgDeprecated :=
  ⟨peerId, msg.messageType, msg.session, msg.startTimestamp⟩

@[simp] theorem PingerMsgDeprecated.ofMsg_msg (self : PingerMsgDeprecated) :
    PingerMsgDeprecated.ofMsg self.peerId self.msg = self := rfl

/-! The two layouts the message codecs share: a type byte and a protobuf message, and a type
byte, a two-byte id and a protobuf message. -/

section Layouts

variable {M I : Type} (pb : ProtobufMessage M) (packetType : UInt8)

/-- `decode` of a packet that is its type byte and a protobuf message. -/
def decodeTagged (bytes : List UInt8) : Except CodecError M :=
  match bytes with
  | [] => .error .invalidLength
  | first :: rest =>
    if PacketType.fromU8 first = packetType then
      match pb.parseFromBytes rest with
      | .ok msg => .ok msg
      | .error () => .error .decodeFailed
    else .error .decodeFailed

def encodeTagged (msg : M) : Except CodecError (List UInt8) :=
  match pb.writeToVec msg with
  | .ok written => .ok (packetType :: written)
  | .error () => .error .encode

/-- `decode` of a pinger packet: `bytes.get(1..3)` is the id, the rest from 3 the message. -/
def decodeWithId (idOf : List UInt8 → Option I) (bytes : List UInt8) :
    Except CodecError (I × M) :=
  match bytes with
  | [] => .error .invalidLength
  | first :: _ =>
    if PacketType.fromU8 first = packetType then
      if bytes.length < 3 then .error .invalidLength
      else
        match idOf ((bytes.drop 1).take 2) with
        | some id =>
          match pb.parseFromBytes (bytes.drop 3) with
          | .ok msg => .ok (id, msg)
          | .error () => .error .decodeFailed
        | none => .error .decodeFailed
    else .error .decodeFailed

def encodeWithId (idBytes : List UInt8) (msg : M) : Except CodecError (List UInt8) :=
  match pb.writeToVec msg with
  | .ok written => .ok (packetType :: idBytes ++ written)
  | .error () => .error .encode

variable {pb packetType}

theorem decodeTagged_encodeTagged (roundTrips : pb.RoundTrips)
    (discriminant : PacketType.fromU8 packetType = packetType) {msg : M} {bytes : List UInt8}
    (encoded : encodeTagged pb packetType msg = .ok bytes) :
    decodeTagged pb packetType bytes = .ok msg ∧ bytes.head? = some packetType := by
  unfold encodeTagged at encoded
  split at encoded
  · rename_i written wrote
    cases encoded
    simp [decodeTagged, discriminant, roundTrips msg written wrote]
  · cases encoded

theorem decodeWithId_encodeWithId (roundTrips : pb.RoundTrips)
    (discriminant : PacketType.fromU8 packetType = packetType) {idOf : List UInt8 → Option I}
    {idBytes : List UInt8} {id : I} (two : idBytes.length = 2) (readsId : idOf idBytes = some id)
    {msg : M} {bytes : List UInt8} (encoded : encodeWithId pb packetType idBytes msg = .ok bytes) :
    decodeWithId pb packetType idOf bytes = .ok (id, msg) ∧ bytes.head? = some packetType := by
  unfold encodeWithId at encoded
  split at encoded
  · rename_i written wrote
    cases encoded
    have header : (List.drop 1 (packetType :: idBytes ++ written)).take 2 = idBytes := by
      simp [two]
    have body : (packetType :: idBytes ++ written).drop 3 = written := by
      simp [two]
    simp only [decodeWithId, List.cons_append, discriminant, ↓reduceIte, List.length_cons,
      List.length_append, two]
    rw [if_neg (by omega), ← List.cons_append, header, readsId, body, roundTrips msg written wrote]
    simp
  · cases encoded

end Layouts

/-! The message codecs, each the layout of its kind at its own type byte. -/

section Messages

variable (pb : Protobuf)

def PingerMsg.decode (bytes : List UInt8) : Except CodecError PingerMsg :=
  (decodeWithId pb.pinger PacketType.pinger WGPort.tryFrom bytes).map fun (wgPort, msg) =>
    ⟨wgPort, msg⟩

/-- `encode`: `put_u16` of the port, then the message. -/
def PingerMsg.encode (self : PingerMsg) : Except CodecError (List UInt8) :=
  encodeWithId pb.pinger PacketType.pinger (toBytes 2 self.wgPort.port.toNat) self.msg

def PingerMsgDeprecated.decode (bytes : List UInt8) : Except CodecError PingerMsgDeprecated :=
  (decodeWithId pb.pinger PacketType.pingerDeprecated PeerId.tryFrom bytes).map
    fun (peerId, msg) => PingerMsgDeprecated.ofMsg peerId msg

def PingerMsgDeprecated.encode (self : PingerMsgDeprecated) : Except CodecError (List UInt8) :=
  encodeWithId pb.pinger PacketType.pingerDeprecated (toBytes 2 self.peerId.id.toNat) self.msg

def CallMeMaybeMsg.decode (bytes : List UInt8) : Except CodecError CallMeMaybeMsg :=
  (decodeTagged pb.callMeMaybe PacketType.callMeMaybe bytes).map CallMeMaybeMsg.mk

def CallMeMaybeMsg.encode (self : CallMeMaybeMsg) : Except CodecError (List UInt8) :=
  encodeTagged pb.callMeMaybe PacketType.callMeMaybe self.msg

def CallMeMaybeMsgDeprecated.decode (bytes : List UInt8) :
    Except CodecError CallMeMaybeMsgDeprecated :=
  decodeTagged pb.callMeMaybeDeprecated PacketType.callMeMaybeDeprecated bytes

def CallMeMaybeMsgDeprecated.encode (self : CallMeMaybeMsgDeprecated) :
    Except CodecError (List UInt8) :=
  encodeTagged pb.callMeMaybeDeprecated PacketType.callMeMaybeDeprecated self

def HeartbeatMessage.decode (bytes : List UInt8) : Except CodecError HeartbeatMessage :=
  (decodeTagged pb.heartbeat PacketType.heartbeat bytes).map HeartbeatMessage.mk

def HeartbeatMessage.encode (self : HeartbeatMessage) : Except CodecError (List UInt8) :=
  encodeTagged pb.heartbeat PacketType.heartbeat self.msg

end Messages

/-- `Packet`. -/
inductive Packet
  | data (msg : DataMsg)
  | heartbeat (msg : HeartbeatMessage)
  | callMeMaybeDeprecated (msg : CallMeMaybeMsgDeprecated)
  | pingerDeprecated (msg : PingerMsgDeprecated)
  | callMeMaybe (msg : CallMeMaybeMsg)
  | pinger (msg : PingerMsg)
  deriving DecidableEq, Repr

namespace Packet

variable (pb : Protobuf)

/-- `Packet::decode`: dispatch on `PacketType::from(bytes[0])`; an encrypted packet should have
been decrypted before. -/
def decode (bytes : List UInt8) : Except CodecError Packet :=
  match bytes with
  | [] => .error .invalidLength
  | first :: _ =>
    let packetType := PacketType.fromU8 first
    if packetType = PacketType.data ∨ packetType = PacketType.genData then
      (DataMsg.decode bytes).map .data
    else if packetType = PacketType.heartbeat then
      (HeartbeatMessage.decode pb bytes).map .heartbeat
    else if packetType = PacketType.callMeMaybe then
      (CallMeMaybeMsg.decode pb bytes).map .callMeMaybe
    else if packetType = PacketType.pinger then
      (PingerMsg.decode pb bytes).map .pinger
    else if packetType = PacketType.callMeMaybeDeprecated then
      (CallMeMaybeMsgDeprecated.decode pb bytes).map .callMeMaybeDeprecated
    else if packetType = PacketType.pingerDeprecated then
      (PingerMsgDeprecated.decode pb bytes).map .pingerDeprecated
    else .error .decodeFailed

def encode : Packet → Except CodecError (List UInt8)
  | .data msg => msg.encode
  | .heartbeat msg => msg.encode pb
  | .callMeMaybe msg => msg.encode pb
  | .pinger msg => msg.encode pb
  | .callMeMaybeDeprecated msg => msg.encode pb
  | .pingerDeprecated msg => msg.encode pb

def packetType : Packet → UInt8
  | .data msg => PacketType.fromU8 msg.packetType
  | .heartbeat _ => PacketType.heartbeat
  | .callMeMaybe _ => PacketType.callMeMaybe
  | .pinger _ => PacketType.pinger
  | .callMeMaybeDeprecated _ => PacketType.callMeMaybeDeprecated
  | .pingerDeprecated _ => PacketType.pingerDeprecated

/-- A data packet's message is well formed; every other packet is. -/
def WellFormed : Packet → Prop
  | .data msg => msg.Valid
  | _ => True

end Packet

/-! Each message codec round trips, by the lemma of its layout. -/

section RoundTrips

variable {pb : Protobuf} (roundTrips : pb.RoundTrips)
include roundTrips

theorem PingerMsg.decode_encode {self : PingerMsg} {bytes : List UInt8}
    (encoded : self.encode pb = .ok bytes) :
    PingerMsg.decode pb bytes = .ok self ∧ bytes.head? = some PacketType.pinger := by
  obtain ⟨decoded, head⟩ := decodeWithId_encodeWithId roundTrips.1 (by decide) (toBytes_length 2 _)
    (WGPort.tryFrom_toBytes self.wgPort) encoded
  exact ⟨by simp [PingerMsg.decode, decoded, Except.map], head⟩

theorem PingerMsgDeprecated.decode_encode {self : PingerMsgDeprecated} {bytes : List UInt8}
    (encoded : self.encode pb = .ok bytes) :
    PingerMsgDeprecated.decode pb bytes = .ok self ∧
      bytes.head? = some PacketType.pingerDeprecated := by
  obtain ⟨decoded, head⟩ := decodeWithId_encodeWithId roundTrips.1 (by decide)
    (toBytes_length 2 _) (PeerId.tryFrom_toBytes self.peerId) encoded
  exact ⟨by simp [PingerMsgDeprecated.decode, decoded, Except.map], head⟩

theorem CallMeMaybeMsg.decode_encode {self : CallMeMaybeMsg} {bytes : List UInt8}
    (encoded : self.encode pb = .ok bytes) :
    CallMeMaybeMsg.decode pb bytes = .ok self ∧ bytes.head? = some PacketType.callMeMaybe := by
  obtain ⟨decoded, head⟩ := decodeTagged_encodeTagged roundTrips.2.1 (by decide) encoded
  exact ⟨by simp [CallMeMaybeMsg.decode, decoded, Except.map], head⟩

theorem CallMeMaybeMsgDeprecated.decode_encode {self : CallMeMaybeMsgDeprecated}
    {bytes : List UInt8} (encoded : self.encode pb = .ok bytes) :
    CallMeMaybeMsgDeprecated.decode pb bytes = .ok self ∧
      bytes.head? = some PacketType.callMeMaybeDeprecated :=
  decodeTagged_encodeTagged roundTrips.2.2.1 (by decide) encoded

theorem HeartbeatMessage.decode_encode {self : HeartbeatMessage} {bytes : List UInt8}
    (encoded : self.encode pb = .ok bytes) :
    HeartbeatMessage.decode pb bytes = .ok self ∧ bytes.head? = some PacketType.heartbeat := by
  obtain ⟨decoded, head⟩ := decodeTagged_encodeTagged roundTrips.2.2.2 (by decide) encoded
  exact ⟨by simp [HeartbeatMessage.decode, decoded, Except.map], head⟩

end RoundTrips

/-- A well-formed data message decodes from its own bytes. -/
theorem DataMsg.decode_of_valid {m : DataMsg} (valid : m.Valid) : DataMsg.decode m.bytes = .ok m := by
  obtain ⟨bytes⟩ := m
  rcases valid.shape with ⟨payload, shape⟩ | ⟨gen, hi, lo, payload, shape⟩
  all_goals cases shape
  · simp [DataMsg.decode, DataMsg.new, PacketType.fromU8, PacketType.data, PacketType.pinger]
  · have read : PeerId.tryFrom [hi, lo] = some ⟨UInt16.ofNat (ofBytes [hi, lo])⟩ := rfl
    have back := PeerId.toBytes_of_tryFrom read
    simp only [DataMsg.decode, DataMsg.withGeneration, List.drop_succ_cons, List.drop_zero,
      List.take_succ_cons, List.take_zero, read, back]
    simp +arith [PacketType.fromU8, PacketType.data, PacketType.genData, PacketType.pinger]

/-- Decoding keeps the bytes: a decoded data message is the packet it was read from. -/
theorem DataMsg.bytes_of_decode {bytes : List UInt8} {m : DataMsg}
    (decoded : DataMsg.decode bytes = .ok m) : m.bytes = bytes := by
  unfold DataMsg.decode at decoded
  split at decoded
  · cases decoded
  · rename_i first rest
    split_ifs at decoded with data genData short
    · cases decoded
      rw [DataMsg.new, PacketType.eq_of_fromU8_eq data (by decide)]
    · split at decoded
      · rename_i peerId read
        cases decoded
        rw [PacketType.eq_of_fromU8_eq genData (by decide)]
        -- the header is whole: `rest` holds the generation and the two id bytes
        match rest, short, read with
        | gen :: hi :: lo :: payload, _, read =>
          have back := PeerId.toBytes_of_tryFrom read
          simp only [List.drop_succ_cons, List.drop_zero, List.take_succ_cons, List.take_zero]
            at back
          simp [DataMsg.withGeneration, back]
      · cases decoded

theorem except_map_eq_ok {ε α β : Type} {x : Except ε α} {f : α → β} {b : β}
    (h : x.map f = .ok b) : ∃ a, x = .ok a ∧ f a = b := by
  cases x with
  | error e => cases h
  | ok a =>
    cases h
    exact ⟨a, rfl, rfl⟩

namespace Packet

variable {pb : Protobuf}

/-- What a message codec's round trip gives a packet of its kind, once `decode` dispatches its
type byte to that codec. -/
theorem decode_encode_of_kind {α : Type} {kind : α → Packet}
    {decodeKind : List UInt8 → Except CodecError α} {packetType : UInt8} {msg : α}
    {bytes : List UInt8} (head : bytes.head? = some packetType)
    (decoded : decodeKind bytes = .ok msg)
    (dispatch : ∀ rest, decode pb (packetType :: rest) = (decodeKind (packetType :: rest)).map kind)
    (tag : PacketType.fromU8 packetType = (kind msg).packetType) :
    decode pb bytes = .ok (kind msg) ∧
      ∃ first rest, bytes = first :: rest ∧ PacketType.fromU8 first = (kind msg).packetType := by
  obtain ⟨rest, rfl⟩ := List.head?_eq_some_iff.mp head
  refine ⟨?_, packetType, rest, rfl, tag⟩
  rw [dispatch, decoded]
  rfl

/-- Every well-formed packet decodes from its encoding, whose first byte is its type. -/
theorem decode_encode (roundTrips : pb.RoundTrips) {p : Packet} (wellFormed : p.WellFormed)
    {bytes : List UInt8} (encoded : p.encode pb = .ok bytes) :
    decode pb bytes = .ok p ∧
      ∃ first rest, bytes = first :: rest ∧ PacketType.fromU8 first = p.packetType := by
  cases p with
  | data msg =>
    cases encoded
    -- a data packet's encoding is its bytes, a Data or a GenData header
    rcases wellFormed.shape with ⟨payload, shape⟩ | ⟨gen, hi, lo, payload, shape⟩
    · refine decode_encode_of_kind (show msg.bytes.head? = some PacketType.data by simp [shape])
        (DataMsg.decode_of_valid wellFormed) (fun _ => rfl) ?_
      simp [Packet.packetType, DataMsg.packetType, shape]
    · refine decode_encode_of_kind (show msg.bytes.head? = some PacketType.genData by simp [shape])
        (DataMsg.decode_of_valid wellFormed) (fun _ => rfl) ?_
      simp [Packet.packetType, DataMsg.packetType, shape]
  | heartbeat msg =>
    obtain ⟨decoded, head⟩ := HeartbeatMessage.decode_encode roundTrips encoded
    exact decode_encode_of_kind head decoded (fun _ => rfl) rfl
  | callMeMaybeDeprecated msg =>
    obtain ⟨decoded, head⟩ := CallMeMaybeMsgDeprecated.decode_encode roundTrips encoded
    exact decode_encode_of_kind head decoded (fun _ => rfl) rfl
  | pingerDeprecated msg =>
    obtain ⟨decoded, head⟩ := PingerMsgDeprecated.decode_encode roundTrips encoded
    exact decode_encode_of_kind head decoded (fun _ => rfl) rfl
  | callMeMaybe msg =>
    obtain ⟨decoded, head⟩ := CallMeMaybeMsg.decode_encode roundTrips encoded
    exact decode_encode_of_kind head decoded (fun _ => rfl) rfl
  | pinger msg =>
    obtain ⟨decoded, head⟩ := PingerMsg.decode_encode roundTrips encoded
    exact decode_encode_of_kind head decoded (fun _ => rfl) rfl

/-- What `decode` accepts is well formed. -/
theorem wellFormed_of_decode {bytes : List UInt8} {q : Packet} (decoded : decode pb bytes = .ok q) :
    q.WellFormed := by
  unfold decode at decoded
  split at decoded
  · cases decoded
  · dsimp only at decoded
    split_ifs at decoded
    · obtain ⟨msg, decodedMsg, rfl⟩ := except_map_eq_ok decoded
      exact DataMsg.valid_of_decode decodedMsg
    all_goals obtain ⟨msg, -, rfl⟩ := except_map_eq_ok decoded
    all_goals trivial

/-- A decoded data packet encodes to the very bytes it was read from. -/
theorem encode_of_decode_data {bytes : List UInt8} {q : Packet} (decoded : decode pb bytes = .ok q)
    (dataHead : bytes.head? = some PacketType.data ∨ bytes.head? = some PacketType.genData) :
    q.encode pb = .ok bytes := by
  have dispatched : decode pb bytes = (DataMsg.decode bytes).map .data := by
    rcases dataHead with head | head
    all_goals
      obtain ⟨rest, rfl⟩ := List.head?_eq_some_iff.mp head
      rfl
  rw [dispatched] at decoded
  obtain ⟨msg, decodedMsg, rfl⟩ := except_map_eq_ok decoded
  simp [encode, DataMsg.encode, DataMsg.bytes_of_decode decodedMsg]

end Packet

/-- The codec round trip over all packet kinds, under the protobuf runtime's own round trip:
every well-formed packet decodes from its encoding, whose first byte is the packet's type; and
whatever `decode` accepts re-encodes to bytes that decode to the same packet, for a Data packet
(and a GenData packet with its whole header) the very bytes it was read from. -/
theorem packet_codec_roundtrip (pb : Protobuf) (roundTrips : pb.RoundTrips) :
    (∀ p : Packet, p.WellFormed → ∀ bytes, p.encode pb = .ok bytes →
      Packet.decode pb bytes = .ok p ∧
        ∃ first rest, bytes = first :: rest ∧ PacketType.fromU8 first = p.packetType) ∧
    (∀ bytes q, Packet.decode pb bytes = .ok q →
      (∀ encoded, q.encode pb = .ok encoded → Packet.decode pb encoded = .ok q) ∧
      (bytes.head? = some PacketType.data ∨
          (bytes.head? = some PacketType.genData ∧ 4 ≤ bytes.length) →
        q.encode pb = .ok bytes)) := by
  refine ⟨fun p wellFormed bytes encoded => Packet.decode_encode roundTrips wellFormed encoded, ?_⟩
  intro bytes q decoded
  refine ⟨fun encoded reencoded =>
    (Packet.decode_encode roundTrips (Packet.wellFormed_of_decode decoded) reencoded).1, ?_⟩
  rintro (data | ⟨genData, -⟩)
  · exact Packet.encode_of_decode_data decoded (.inl data)
  · exact Packet.encode_of_decode_data decoded (.inr genData)

/-- A wire format for `Pinger`: the type, then session and timestamp as big-endian `u64`s. -/
def pingerWire : ProtobufMessage Pinger :=
  ⟨fun bytes => match bytes with
    | kind :: rest =>
      if rest.length = 16 then
        .ok ⟨if kind = 0 then .ping else .pong, UInt64.ofNat (ofBytes (rest.take 8)),
          UInt64.ofNat (ofBytes (rest.drop 8))⟩
      else .error ()
    | [] => .error (),
   fun msg => .ok ((if msg.messageType = .ping then 0 else 1) ::
     toBytes 8 msg.session.toNat ++ toBytes 8 msg.startTimestamp.toNat)⟩

/-- A runtime that writes pingers only; every other message fails to write. -/
def pingerOnly : Protobuf :=
  ⟨pingerWire, ⟨fun _ => .error (), fun _ => .error ()⟩, ⟨fun _ => .error (), fun _ => .error ()⟩,
    ⟨fun _ => .error (), fun _ => .error ()⟩⟩

/-- One message with the bytes the `protobuf` runtime writes for it. -/
structure ProtobufTable (M : Type) where
  msg : M
  bytes : List UInt8

/-- The runtime of a table: it writes and parses the table's message only, and fails on every
other input. -/
def ProtobufTable.runtime {M : Type} [DecidableEq M] (t : ProtobufTable M) : ProtobufMessage M :=
  ⟨fun bytes => if bytes = t.bytes then .ok t.msg else .error (),
    fun msg => if msg = t.msg then .ok t.bytes else .error ()⟩

theorem ProtobufTable.roundTrips {M : Type} [DecidableEq M] (t : ProtobufTable M) :
    t.runtime.RoundTrips := by
  intro msg bytes wrote
  simp only [ProtobufTable.runtime] at wrote ⊢
  split_ifs at wrote with same
  cases wrote
  simp [same]

/-- What `protobuf` 2 writes for the ping of session 9 sent at 256: proto3 leaves out the
`message_type` field at its default `PING`, and writes `session` (field 2) and
`start_timestamp` (field 3) as a tag byte and a varint each. -/
def pingTable : ProtobufTable Pinger :=
  ⟨⟨.ping, 9, 256⟩, [0x10, 0x09, 0x18, 0x80, 0x02]⟩

/-- A runtime that knows the pinger of one table only; the other messages fail both ways. -/
def ProtobufTable.pingerRuntime (t : ProtobufTable Pinger) : Protobuf :=
  ⟨t.runtime, ⟨fun _ => .error (), fun _ => .error ()⟩,
    ⟨fun _ => .error (), fun _ => .error ()⟩, ⟨fun _ => .error (), fun _ => .error ()⟩⟩

theorem ProtobufTable.pingerRuntime_roundTrips (t : ProtobufTable Pinger) :
    t.pingerRuntime.RoundTrips := by
  refine ⟨t.roundTrips, ?_, ?_, ?_⟩
  all_goals
    intro _ _ wrote
    cases wrote

def pingTableRuntime : Protobuf := pingTable.pingerRuntime

theorem packet_codec_roundtrip_pingTable :
    pingTableRuntime.RoundTrips ∧
      Packet.decode pingTableRuntime [7, 0xca, 0x6c, 0x10, 0x09, 0x18, 0x80, 0x02] =
        .ok (.pinger ⟨⟨51820⟩, ⟨.ping, 9, 256⟩⟩) :=
  have roundTrips : pingTableRuntime.RoundTrips := pingTable.pingerRuntime_roundTrips
  have encoded : (Packet.pinger ⟨⟨51820⟩, ⟨.ping, 9, 256⟩⟩).encode pingTableRuntime =
      .ok [7, 0xca, 0x6c, 0x10, 0x09, 0x18, 0x80, 0x02] := by decide
  ⟨roundTrips, ((packet_codec_roundtrip pingTableRuntime roundTrips).1 _ (by trivial) _ encoded).1⟩

end Libtelio.TelioProto
