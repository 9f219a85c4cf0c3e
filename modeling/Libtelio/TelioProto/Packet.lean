/- The packet vocabulary of `telio-proto` the routing code reads.

   `DataMsg` is its byte vector, as in the source: `[0x00, payload]` for Data and
   `[0x01, generation, peer_id (BE u16), payload]` for GenData, with the getters and setters
   reading and splicing those bytes. `Generation` is a wrapping 8-bit counter whose order
   compares the forward distance with half the range. The protobuf messages
   (`PingerMsgDeprecated`, `CallMeMaybeMsgDeprecated`) are records of the fields the code
   reads. -/

import Libtelio.Lib.BigEndian
import Libtelio.Net.Addr

set_option autoImplicit false
set_option relaxedAutoImplicit false

namespace Libtelio.TelioProto

open Libtelio.Lib.BigEndian Libtelio.Net

/-- `Session`, a traversal or ping session number. -/
abbrev Session := UInt64

/-- `Timestamp`, microseconds since the Unix epoch. -/
abbrev Timestamp := UInt64

/-- `PeerId(u16)`. -/
structure PeerId where
  id : UInt16
  deriving DecidableEq, Repr

/-- `PeerId::try_from(&[u8])`: exactly two bytes, big-endian. -/
def PeerId.tryFrom (bytes : List UInt8) : Option PeerId :=
  if bytes.length = 2 then some ⟨UInt16.ofNat (ofBytes bytes)⟩ else none

/-- `PeerId::try_from` reads back the two bytes `put_u16` writes: `transmute` then `to_be` is the
big-endian reading on either byte order of the host. -/
@[simp] theorem PeerId.tryFrom_toBytes (peerId : PeerId) :
    PeerId.tryFrom (toBytes 2 peerId.id.toNat) = some peerId := by
  have fits : peerId.id.toNat < 256 ^ 2 := peerId.id.toNat_lt
  simp [PeerId.tryFrom, ofBytes_toBytes 2 _ fits]

theorem PeerId.toBytes_of_tryFrom {bytes : List UInt8} {peerId : PeerId}
    (h : PeerId.tryFrom bytes = some peerId) : toBytes 2 peerId.id.toNat = bytes := by
  unfold PeerId.tryFrom at h
  split at h
  · rename_i two
    cases h
    have fits : ofBytes bytes < 2 ^ 16 := by
      have := ofBytes_lt bytes
      rw [two] at this
      omega
    rw [UInt16.toNat_ofNat_of_lt' fits, ← two, toBytes_ofBytes]
  · cases h

/-- `CodecError`. -/
inductive CodecError
  | invalidLength
  | invalidType
  | decodeFailed
  | encode
  deriving DecidableEq, Repr

/-- `Generation(u8)`. -/
structure Generation where
  gen : UInt8
  deriving DecidableEq, Repr

instance : Inhabited Generation := ⟨⟨0⟩⟩

/-- `Generation::next`: the wrapping successor. -/
def Generation.next (self : Generation) : Generation := ⟨self.gen + 1⟩

/-- `Generation::partial_cmp`: `other` is ahead of `self` when it is reached by at most
`u8::MAX / 2` forward steps. -/
def Generation.partialCmp (self other : Generation) : Ordering :=
  if self.gen = other.gen then .eq
  else if other.gen - self.gen > 255 / 2 then .gt
  else .lt

/-- `self < other` under `partial_cmp`. -/
def Generation.lt (self other : Generation) : Bool := self.partialCmp other == .lt

/-- The `PacketType` discriminants (`#[repr(u8)]`); a packet type is its byte. -/
def PacketType.data : UInt8 := 0x00
def PacketType.genData : UInt8 := 0x01
def PacketType.heartbeat : UInt8 := 0x02
def PacketType.callMeMaybeDeprecated : UInt8 := 0x03
def PacketType.pingerDeprecated : UInt8 := 0x04
def PacketType.encrypted : UInt8 := 0x05
def PacketType.callMeMaybe : UInt8 := 0x06
def PacketType.pinger : UInt8 := 0x07
def PacketType.reserved : UInt8 := 0xfe
def PacketType.invalid : UInt8 := 0xff

/-- `PacketType::from(u8)`: `from_repr`, with `Invalid` for a byte that is no discriminant. -/
def PacketType.fromU8 (val : UInt8) : UInt8 :=
  if val ≤ PacketType.pinger ∨ val = PacketType.reserved then val else PacketType.invalid

/-- A byte `PacketType::from` reads as a type other than `Invalid` is that type's discriminant. -/
theorem PacketType.eq_of_fromU8_eq {val packetType : UInt8} (h : PacketType.fromU8 val = packetType)
    (valid : packetType ≠ PacketType.invalid) : val = packetType := by
  unfold PacketType.fromU8 at h
  split_ifs at h
  · exact h
  · exact absurd h.symm valid

/-- `DataMsg`: the encoded packet bytes. -/
structure DataMsg where
  bytes : List UInt8
  deriving DecidableEq, Repr

/-- `DataMsg::new`: a plain Data packet. -/
def DataMsg.new (wgData : List UInt8) : DataMsg := ⟨PacketType.data :: wgData⟩

/-- `DataMsg::with_generation`: a GenData packet. -/
def DataMsg.withGeneration (wgData : List UInt8) (generation : Generation) (peerId : PeerId) :
    DataMsg :=
  ⟨PacketType.genData :: generation.gen :: toBytes 2 peerId.id.toNat ++ wgData⟩

/-- The type byte, `bytes[0]`. -/
def DataMsg.packetType (self : DataMsg) : UInt8 := self.bytes.headD 0xff

/-- `DataMsg::get_generation`: `bytes[1]` of a GenData packet. -/
def DataMsg.getGeneration (self : DataMsg) : Option Generation :=
  if self.packetType = PacketType.genData then some ⟨self.bytes.getD 1 0⟩ else none

/-- `DataMsg::get_peer_id`: `bytes[2..4]` of a GenData packet. -/
def DataMsg.getPeerId (self : DataMsg) : Option PeerId :=
  if self.packetType = PacketType.genData then PeerId.tryFrom ((self.bytes.drop 2).take 2)
  else none

/-- `DataMsg::set_generation`: a Data packet first becomes GenData with generation and peer id
zero (`convert_to_gen_data`), then `bytes[1]` is overwritten. -/
def DataMsg.setGeneration (self : DataMsg) (generation : Generation) : DataMsg :=
  let converted :=
    if self.packetType = PacketType.data then
      PacketType.genData :: 0 :: 0 :: 0 :: self.bytes.drop 1
    else self.bytes
  ⟨converted.set 1 generation.gen⟩

/-- `DataMsg::set_peer_id`: splice the big-endian id into `bytes[2..4]` of a GenData packet;
`InvalidType` otherwise. -/
def DataMsg.setPeerId (self : DataMsg) (peerId : PeerId) : Option DataMsg :=
  if self.packetType = PacketType.genData then
    some ⟨self.bytes.take 2 ++ toBytes 2 peerId.id.toNat ++ self.bytes.drop 4⟩
  else none

/-- `DataMsg::get_payload`: the bytes after the header. -/
def DataMsg.getPayload (self : DataMsg) : List UInt8 :=
  self.bytes.drop (if self.packetType = PacketType.genData then 4 else 1)

/-- `Codec::decode for DataMsg`: a Data packet is its payload, a GenData packet needs its
four-byte header. -/
def DataMsg.decode (bytes : List UInt8) : Except CodecError DataMsg :=
  match bytes with
  | [] => .error .invalidLength
  | first :: rest =>
    if PacketType.fromU8 first = PacketType.data then .ok (DataMsg.new rest)
    else if PacketType.fromU8 first = PacketType.genData then
      if bytes.length < 4 then .error .invalidLength
      else
        match PeerId.tryFrom ((bytes.drop 2).take 2) with
        | some peerId => .ok (DataMsg.withGeneration (bytes.drop 4) ⟨bytes.getD 1 0⟩ peerId)
        | none => .error .decodeFailed
    else .error .decodeFailed

/-- `Codec::encode for DataMsg`: the bytes as they are. -/
def DataMsg.encode (self : DataMsg) : Except CodecError (List UInt8) :=
  .ok self.bytes

/-- `Pinger_Type`. -/
inductive PingerType
  | ping
  | pong
  deriving DecidableEq, Repr

/-- `PingerMsgDeprecated`: the sender's peer id and the pinger fields. -/
structure PingerMsgDeprecated where
  peerId : PeerId
  messageType : PingerType
  session : Session
  startTimestamp : Timestamp
  deriving DecidableEq, Repr

/-- `PingerMsgDeprecated::pong`: the reply to a ping, carrying its session and timestamp. -/
def PingerMsgDeprecated.pong (self : PingerMsgDeprecated) (peerId : PeerId) :
    Option PingerMsgDeprecated :=
  if self.messageType = .ping then some ⟨peerId, .pong, self.session, self.startTimestamp⟩
  else none

/-- `CallMeMaybeDeprecated_Type`. -/
inductive CallMeMaybeDeprecatedType
  | initiator
  | responder
  deriving DecidableEq, Repr

/-- `CallMeMaybeMsgDeprecated`: who sends it, the sender's endpoints, its traversal session
and its rx peer id (`my_peer_id: u32`). -/
structure CallMeMaybeMsgDeprecated where
  iAm : CallMeMaybeDeprecatedType
  myAddresses : List SocketAddr
  session : Session
  myPeerId : UInt32
  deriving DecidableEq, Repr

/-- `CallMeMaybeMsgDeprecated::get_peer_id`: `my_peer_id as u16`. -/
def CallMeMaybeMsgDeprecated.getPeerId (self : CallMeMaybeMsgDeprecated) : PeerId :=
  ⟨self.myPeerId.toUInt16⟩

end Libtelio.TelioProto
