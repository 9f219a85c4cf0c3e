/- The representation invariant of `DataMsg` and the laws of its setters.

   Every message the code builds, by its constructors, by decoding or by its two setters, is a
   Data packet or a GenData packet with its whole header (`Built.valid`), so that no getter reads
   past its bytes. On such a message `set_generation` sets the generation and keeps the payload,
   converting a Data packet to GenData with peer id zero, and `set_peer_id` splices the id of a
   GenData packet and keeps the rest. -/

import Libtelio.TelioProto.Packet

set_option autoImplicit false
set_option relaxedAutoImplicit false

namespace Libtelio.TelioProto

open Libtelio.Lib.BigEndian

namespace DataMsg

/-- A Data packet, or a GenData packet with its whole four-byte header. -/
def Valid (m : DataMsg) : Prop :=
  m.bytes.head? = some PacketType.data ∨
    (m.bytes.head? = some PacketType.genData ∧ 4 ≤ m.bytes.length)

instance (m : DataMsg) : Decidable m.Valid := inferInstanceAs (Decidable (_ ∨ _))

/-- The messages the code can build. -/
inductive Built : DataMsg → Prop
  | new (wgData : List UInt8) : Built (DataMsg.new wgData)
  | withGeneration (wgData : List UInt8) (generation : Generation) (peerId : PeerId) :
      Built (DataMsg.withGeneration wgData generation peerId)
  | decode {bytes : List UInt8} {m : DataMsg} : DataMsg.decode bytes = .ok m → Built m
  | setGeneration {m : DataMsg} (generation : Generation) :
      Built m → Built (m.setGeneration generation)
  | setPeerId {m m' : DataMsg} (peerId : PeerId) : Built m → m.setPeerId peerId = some m' → Built m'

/-- The two shapes of a valid message. -/
theorem Valid.shape {m : DataMsg} (valid : m.Valid) :
    (∃ payload, m.bytes = PacketType.data :: payload) ∨
      ∃ gen hi lo payload, m.bytes = PacketType.genData :: gen :: hi :: lo :: payload := by
  obtain ⟨bytes⟩ := m
  rcases valid with data | ⟨genData, long⟩
  · obtain ⟨payload, rfl⟩ : ∃ payload, bytes = PacketType.data :: payload := by
      cases bytes <;> simp_all
    exact .inl ⟨payload, rfl⟩
  · match bytes, genData, long with
    | b :: gen :: hi :: lo :: payload, genData, _ =>
      simp only [List.head?_cons, Option.some.injEq] at genData
      exact .inr ⟨gen, hi, lo, payload, by rw [genData]⟩

theorem valid_new (wgData : List UInt8) : (DataMsg.new wgData).Valid :=
  .inl rfl

theorem valid_withGeneration (wgData : List UInt8) (generation : Generation) (peerId : PeerId) :
    (DataMsg.withGeneration wgData generation peerId).Valid :=
  .inr ⟨rfl, by simp [DataMsg.withGeneration]⟩

theorem valid_of_decode {bytes : List UInt8} {m : DataMsg} (decoded : DataMsg.decode bytes = .ok m) :
    m.Valid := by
  unfold DataMsg.decode at decoded
  split at decoded
  · cases decoded
  · split_ifs at decoded
    · cases decoded
      exact valid_new _
    · split at decoded
      · cases decoded
        exact valid_withGeneration _ _ _
      · cases decoded

/-- A Data packet read as GenData: the header of zeros `convert_to_gen_data` writes. -/
theorem Valid.setGeneration {m : DataMsg} (valid : m.Valid) (generation : Generation) :
    (m.setGeneration generation).Valid := by
  rcases valid.shape with ⟨payload, shape⟩ | ⟨gen, hi, lo, payload, shape⟩
  all_goals
    obtain ⟨bytes⟩ := m
    cases shape
    right
    simp [DataMsg.setGeneration, DataMsg.packetType, PacketType.data, PacketType.genData]

theorem Valid.setPeerId {m m' : DataMsg} (valid : m.Valid) {peerId : PeerId}
    (set : m.setPeerId peerId = some m') : m'.Valid := by
  unfold DataMsg.setPeerId at set
  split_ifs at set with genData
  cases set
  rcases valid.shape with ⟨payload, shape⟩ | ⟨gen, hi, lo, payload, shape⟩
  · simp [DataMsg.packetType, shape, PacketType.data, PacketType.genData] at genData
  · right
    simp [shape, PacketType.genData]

theorem Built.valid {m : DataMsg} (built : m.Built) : m.Valid := by
  induction built with
  | new wgData => exact valid_new wgData
  | withGeneration wgData generation peerId => exact valid_withGeneration wgData generation peerId
  | decode decoded => exact valid_of_decode decoded
  | setGeneration generation _ ih => exact ih.setGeneration generation
  | setPeerId peerId _ set ih => exact ih.setPeerId set

section Setters

variable {m : DataMsg} (valid : m.Valid)
include valid

theorem getGeneration_setGeneration (generation : Generation) :
    (m.setGeneration generation).getGeneration = some generation := by
  rcases valid.shape with ⟨payload, shape⟩ | ⟨gen, hi, lo, payload, shape⟩
  all_goals
    obtain ⟨bytes⟩ := m
    cases shape
    simp [DataMsg.setGeneration, DataMsg.getGeneration, DataMsg.packetType, PacketType.data,
      PacketType.genData]

theorem getPayload_setGeneration (generation : Generation) :
    (m.setGeneration generation).getPayload = m.getPayload := by
  rcases valid.shape with ⟨payload, shape⟩ | ⟨gen, hi, lo, payload, shape⟩
  all_goals
    obtain ⟨bytes⟩ := m
    cases shape
    simp [DataMsg.setGeneration, DataMsg.getPayload, DataMsg.packetType, PacketType.data,
      PacketType.genData]

/-- A GenData packet keeps its peer id; a Data packet gets id zero. -/
theorem getPeerId_setGeneration (generation : Generation) :
    (m.setGeneration generation).getPeerId =
      if m.packetType = PacketType.genData then m.getPeerId else some ⟨0⟩ := by
  rcases valid.shape with ⟨payload, shape⟩ | ⟨gen, hi, lo, payload, shape⟩
  all_goals
    obtain ⟨bytes⟩ := m
    cases shape
    simp [DataMsg.setGeneration, DataMsg.getPeerId, DataMsg.packetType, PacketType.data,
      PacketType.genData, PeerId.tryFrom, ofBytes]

/-- `set_peer_id` on a GenData packet: the new id, the same generation and payload. -/
theorem setPeerId_of_genData (genData : m.packetType = PacketType.genData) (peerId : PeerId) :
    ∃ m', m.setPeerId peerId = some m' ∧ m'.getPeerId = some peerId ∧
      m'.getGeneration = m.getGeneration ∧ m'.getPayload = m.getPayload := by
  rcases valid.shape with ⟨payload, shape⟩ | ⟨gen, hi, lo, payload, shape⟩
  · simp [DataMsg.packetType, shape, PacketType.data, PacketType.genData] at genData
  · obtain ⟨bytes⟩ := m
    cases shape
    refine ⟨_, if_pos genData, ?_, ?_, ?_⟩
    · have two : (toBytes 2 peerId.id.toNat).length = 2 := toBytes_length 2 _
      simp [DataMsg.getPeerId, DataMsg.packetType, PacketType.genData, List.drop_append, two]
    all_goals
      simp [DataMsg.getGeneration, DataMsg.getPayload, DataMsg.packetType, PacketType.genData,
        toBytes_two]

end Setters

theorem setPeerId_of_data {m : DataMsg} (data : m.packetType = PacketType.data) (peerId : PeerId) :
    m.setPeerId peerId = none := by
  simp [DataMsg.setPeerId, data, PacketType.data, PacketType.genData]

/-- Every message the code builds is a Data packet or a GenData packet with its whole header,
and on it `set_generation` and `set_peer_id` obey their laws. -/
theorem data_msg_setter_laws {m : DataMsg} (built : m.Built) (generation : Generation)
    (peerId : PeerId) :
    (m.bytes.head? = some PacketType.data ∨
      (m.bytes.head? = some PacketType.genData ∧ 4 ≤ m.bytes.length)) ∧
    (m.setGeneration generation).getGeneration = some generation ∧
    (m.setGeneration generation).getPayload = m.getPayload ∧
    (m.setGeneration generation).getPeerId =
      (if m.packetType = PacketType.genData then m.getPeerId else some ⟨0⟩) ∧
    (m.packetType = PacketType.genData → ∃ m', m.setPeerId peerId = some m' ∧
      m'.getPeerId = some peerId ∧ m'.getGeneration = m.getGeneration ∧
      m'.getPayload = m.getPayload) ∧
    (m.packetType = PacketType.data → m.setPeerId peerId = none) := by
  have valid := built.valid
  exact ⟨valid, getGeneration_setGeneration valid generation,
    getPayload_setGeneration valid generation, getPeerId_setGeneration valid generation,
    fun genData => setPeerId_of_genData valid genData peerId,
    fun data => setPeerId_of_data data peerId⟩

theorem data_msg_setter_laws_new :
    ((DataMsg.new [1, 2]).setGeneration ⟨1⟩).getGeneration = some ⟨1⟩ :=
  (data_msg_setter_laws (.new [1, 2]) ⟨1⟩ ⟨5⟩).2.1

end DataMsg

end Libtelio.TelioProto
