/- The magic DNS nameserver's answer path (`nameserver.rs`): what `start`'s task does with an
   IPv4 packet the tunnel decapsulated (`TunnResult::WriteToTunnelV4`).

   The request is checked: its IPv4 and UDP checksums, the destination port 53, a DNS message
   in the payload. The answer is then written in place over the task's copy of the receive
   buffer, a `Vec` of `MAX_PACKET` bytes that still holds what the socket last read. The IPv4
   header goes over its first 20 bytes and the UDP datagram over the bytes up to the answer's
   length, and that slice is handed to `encapsulate`.

   `set_flags(2)` rewrites only the top three bits of byte 6, and no setter touches the rest of
   byte 6 or byte 7. The answer's fragment offset is therefore whatever the buffer held there: the
   receiver index of the WireGuard message the socket read. The UDP slice
   `receiving_buffer[IP_HEADER..length]` panics once the DNS answer is longer than
   `MAX_PACKET - 28` bytes.

   The DNS parser (`MessageRequest::from_bytes`) and the zone lookup are parameters. The
   semaphore's lease is an input. -/

import Libtelio.TelioDns.Packet
import Mathlib.Tactic.IntervalCases

set_option autoImplicit false
set_option relaxedAutoImplicit false

namespace Libtelio.TelioDns

open Libtelio.Lib.BigEndian Libtelio.Lib.Buffer Libtelio.Net Libtelio.TelioFirewall

/-- `IP_HEADER`. -/
def ipHeader : Nat := 20

/-- `MAX_PACKET`. -/
def maxPacket : Nat := 2048

/-- `UDP_HEADER`. -/
def udpHeader : Nat := 8

/-- How the task ends for one packet. -/
inductive Outcome
  /-- A check failed and the task returned. -/
  | dropped
  /-- An out-of-range slice, or an `unwrap` of `None`. -/
  | panicked
  /-- `peer.encapsulate(&receiving_buffer[..length], ..)`. -/
  | encapsulate (packet : List UInt8)
  deriving DecidableEq, Repr

section Request

variable {Query : Type} (fromBytes : List UInt8 → Option Query)

/-- The checks of the `WriteToTunnelV4` arm, in the order `start` makes them. -/
def parseRequest (leased : Bool) (packet : List UInt8) : Option (Ipv4Packet × UdpPacket × Query) := do
  if !leased then none
  let ipRequest ← Ipv4Packet.new packet
  if ipRequest.checksum ≠ ipRequest.getChecksum then none
  let udpRequest ← UdpPacket.new ipRequest.payload
  if udpRequest.ipv4Checksum ipRequest.getSource ipRequest.getDestination ≠ udpRequest.getChecksum
  then none
  if udpRequest.getDestination ≠ 53 then none
  let dnsRequest ← fromBytes udpRequest.payload
  return (ipRequest, udpRequest, dnsRequest)

end Request

/-- The IPv4 header of the answer, its checksum computed last over the header it completes. -/
def writeIpResponse (ipRequest : Ipv4Packet) (length : Nat) (ipResponse : Ipv4Packet) :
    Ipv4Packet :=
  let ipResponse := ipResponse.setVersion 4
    |>.setHeaderLength (UInt8.ofNat (ipHeader / 4))
    |>.setDscp ipRequest.getDscp
    |>.setEcn ipRequest.getEcn
    |>.setTotalLength (UInt16.ofNat length)
    |>.setFlags 2
    |>.setIdentification ipRequest.getIdentification
    |>.setNextLevelProtocol IpNextHeaderProtocols.udp
    |>.setTtl ipRequest.getTtl
    |>.setSource ipRequest.getDestination
    |>.setDestination ipRequest.getSource
    |>.setChecksum 0
  ipResponse.setChecksum ipResponse.checksum

/-- The UDP datagram of the answer, over the view of the buffer's bytes after the IPv4 header. -/
def writeUdpResponse (ipRequest : Ipv4Packet) (udpRequest : UdpPacket) (dnsResponse : List UInt8)
    (udpResponse : UdpPacket) : Option UdpPacket := do
  let udpResponse := udpResponse.setSource udpRequest.getDestination
    |>.setDestination udpRequest.getSource
    |>.setLength (UInt16.ofNat (udpHeader + dnsResponse.length))
  let udpResponse ← udpResponse.setPayload dnsResponse
  return udpResponse.setChecksum
    (udpResponse.ipv4Checksum ipRequest.getDestination ipRequest.getSource)

/-- The answer written over the receive buffer, and the slice of it handed to `encapsulate`;
`none` is a panic. -/
def respond (ipRequest : Ipv4Packet) (udpRequest : UdpPacket) (dnsResponse : List UInt8)
    (receivingBuffer : List UInt8) : Option (List UInt8) := do
  let length := ipHeader + udpHeader + dnsResponse.length
  let ipResponse ← Ipv4Packet.new receivingBuffer
  let receivingBuffer := (writeIpResponse ipRequest length ipResponse).buf
  let udpResponse ← UdpPacket.new (← slice receivingBuffer ipHeader length)
  let udpResponse ← writeUdpResponse ipRequest udpRequest dnsResponse udpResponse
  slice (write receivingBuffer ipHeader udpResponse.buf) 0 length

section Handler

variable {Query : Type} (fromBytes : List UInt8 → Option Query)
  (lookup : Query → SocketAddr → List UInt8)

/-- The `WriteToTunnelV4` arm: the request checked, the zones asked, the answer built in the
receive buffer. -/
def handleWriteToTunnelV4 (leased : Bool) (packet : List UInt8)
    (receivingBuffer : Vector UInt8 maxPacket) : Outcome :=
  match parseRequest fromBytes leased packet with
  | none => .dropped
  | some (ipRequest, udpRequest, dnsRequest) =>
    let dnsResponse := lookup dnsRequest ⟨.v4 ipRequest.getSource, udpRequest.getSource⟩
    match respond ipRequest udpRequest dnsResponse receivingBuffer.toList with
    | some packet => .encapsulate packet
    | none => .panicked

end Handler

/-! ### The answer -/

/-- The IPv4 header of an answer of `length` bytes to `ipRequest`, as the nameserver means it:
the addresses swapped, DSCP, ECN, identification and TTL copied, and a checksum that its own check
accepts. -/
structure AnswerHeader (ipRequest : Ipv4Packet) (length : Nat) (ip : Ipv4Packet) : Prop where
  version : ip.getVersion = 4
  headerLength : ip.getHeaderLength = 5
  dscp : ip.getDscp = ipRequest.getDscp
  ecn : ip.getEcn = ipRequest.getEcn
  totalLength : ip.getTotalLength = UInt16.ofNat length
  flags : ip.getFlags = 2
  identification : ip.getIdentification = ipRequest.getIdentification
  protocol : ip.getNextLevelProtocol = IpNextHeaderProtocols.udp
  ttl : ip.getTtl = ipRequest.getTtl
  source : ip.getSource = ipRequest.getDestination
  destination : ip.getDestination = ipRequest.getSource
  checksum : ip.checksum = ip.getChecksum

/-- The UDP datagram of an answer: the ports swapped, the DNS answer as its payload, and a
checksum over the swapped pseudo-header that the nameserver's own check accepts. -/
structure AnswerDatagram (ipRequest : Ipv4Packet) (udpRequest : UdpPacket)
    (dnsResponse : List UInt8) (udp : UdpPacket) : Prop where
  source : udp.getSource = udpRequest.getDestination
  destination : udp.getDestination = udpRequest.getSource
  length : udp.getLength = UInt16.ofNat (udpHeader + dnsResponse.length)
  checksum : udp.ipv4Checksum ipRequest.getDestination ipRequest.getSource = udp.getChecksum
  payload : udp.payload = dnsResponse

/-! The bytes `start` writes a few bits at a time, as `simp` leaves them: byte 0 from
`set_version` and `set_header_length`, byte 1 from `set_dscp` and `set_ecn` of the request's
own fields, byte 6 from `set_flags`. -/

theorem versionByte_eq (b : UInt8) :
    (b &&& ~~~(240 : UInt8) ||| (4 : UInt8) <<< (4 : UInt8) &&& 240) &&& ~~~(15 : UInt8) |||
      5 &&& 15 = 69 := by
  apply UInt8.toBitVec_inj.mp
  simp only [UInt8.toBitVec_or, UInt8.toBitVec_and, UInt8.toBitVec_not, UInt8.toBitVec_shiftLeft]
  ext i hi
  simp
  interval_cases i <;> simp

theorem serviceByte_eq (b r : UInt8) :
    (b &&& ~~~(252 : UInt8) ||| r >>> (2 : UInt8) <<< (2 : UInt8) &&& 252) &&& ~~~(3 : UInt8) |||
      r &&& 3 &&& 3 = r := by
  apply UInt8.toBitVec_inj.mp
  simp only [UInt8.toBitVec_or, UInt8.toBitVec_and, UInt8.toBitVec_not, UInt8.toBitVec_shiftLeft,
    UInt8.toBitVec_shiftRight]
  ext i hi
  simp
  interval_cases i <;> simp

theorem flagsByte_flags (b : UInt8) :
    (b &&& ~~~(224 : UInt8) ||| (2 : UInt8) <<< (5 : UInt8) &&& 224) >>> (5 : UInt8) = 2 := by
  apply UInt8.toBitVec_inj.mp
  simp only [UInt8.toBitVec_or, UInt8.toBitVec_and, UInt8.toBitVec_not, UInt8.toBitVec_shiftLeft,
    UInt8.toBitVec_shiftRight]
  ext i hi
  simp
  interval_cases i <;> simp

/-- `set_flags` keeps the low five bits of byte 6, the top of the fragment offset. -/
theorem flagsByte_offset (b : UInt8) :
    (b &&& ~~~(224 : UInt8) ||| (2 : UInt8) <<< (5 : UInt8) &&& 224) &&& 31 = b &&& 31 := by
  apply UInt8.toBitVec_inj.mp
  simp only [UInt8.toBitVec_or, UInt8.toBitVec_and, UInt8.toBitVec_not, UInt8.toBitVec_shiftLeft]
  ext i hi
  simp
  interval_cases i <;> simp

@[simp] theorem ofNat_mod_u16 (n : Nat) : UInt16.ofNat (n % 65536) = UInt16.ofNat n := by
  apply UInt16.toNat_inj.mp
  simp

@[simp] theorem ofNat_mod_u32 (n : Nat) : UInt32.ofNat (n % 4294967296) = UInt32.ofNat n := by
  apply UInt32.toNat_inj.mp
  simp

/-- The header written over any view: every field the nameserver sets, and the fragment offset
of what the view held before. -/
theorem writeIpResponse_header (ipRequest : Ipv4Packet) (length : Nat) (ipResponse : Ipv4Packet) :
    AnswerHeader ipRequest length (writeIpResponse ipRequest length ipResponse) ∧
      (writeIpResponse ipRequest length ipResponse).getFragmentOffset =
        ipResponse.getFragmentOffset := by
  have within : ∀ k, k ≤ 20 → k ≤ ipResponse.buf.length :=
    fun k le => le_trans le ipResponse.minimum
  have inside : ∀ k, k < 20 → k < ipResponse.buf.length :=
    fun k lt => lt_of_lt_of_le lt ipResponse.minimum
  -- the checksum is the last write, over the header it completes
  have checksum : (writeIpResponse ipRequest length ipResponse).checksum =
      (writeIpResponse ipRequest length ipResponse).getChecksum := by
    simp only [writeIpResponse]
    rw [Ipv4Packet.checksum_setChecksum, Ipv4Packet.getChecksum_setChecksum]
  -- every other field is read back through the writes after it
  obtain ⟨version, headerLength, dscp, ecn, totalLength, flags, identification, protocol, ttl,
      source, destination, fragmentOffset⟩ :
      let ip := writeIpResponse ipRequest length ipResponse
      ip.getVersion = 4 ∧ ip.getHeaderLength = 5 ∧ ip.getDscp = ipRequest.getDscp ∧
        ip.getEcn = ipRequest.getEcn ∧ ip.getTotalLength = UInt16.ofNat length ∧
        ip.getFlags = 2 ∧ ip.getIdentification = ipRequest.getIdentification ∧
        ip.getNextLevelProtocol = IpNextHeaderProtocols.udp ∧ ip.getTtl = ipRequest.getTtl ∧
        ip.getSource = ipRequest.getDestination ∧ ip.getDestination = ipRequest.getSource ∧
        ip.getFragmentOffset = ipResponse.getFragmentOffset := by
    simp [writeIpResponse, ipHeader, Ipv4Packet.getSource_eq, Ipv4Packet.getDestination_eq,
      Ipv4Packet.getTotalLength, Ipv4Packet.getIdentification, Ipv4Packet.getTtl,
      Ipv4Packet.getFragmentOffset, Ipv4Packet.getVersion, Ipv4Packet.getHeaderLength,
      Ipv4Packet.getDscp, Ipv4Packet.getEcn, Ipv4Packet.getFlags, Ipv4Packet.getNextLevelProtocol,
      getU16, Ipv4Packet.setChecksum, Ipv4Packet.setU16, Ipv4Packet.write,
      Ipv4Packet.setDestination, Ipv4Packet.setSource, Ipv4Packet.setTtl,
      Ipv4Packet.setNextLevelProtocol, Ipv4Packet.setIdentification, Ipv4Packet.setFlags,
      Ipv4Packet.setTotalLength, Ipv4Packet.setEcn, Ipv4Packet.setDscp, Ipv4Packet.setHeaderLength,
      Ipv4Packet.setVersion, Ipv4Packet.setBits, getElem_write, read_write_of_disjoint,
      read_write_of_length, within, inside, versionByte_eq, serviceByte_eq, flagsByte_flags,
      flagsByte_offset]
    decide
  exact ⟨⟨version, headerLength, dscp, ecn, totalLength, flags, identification, protocol, ttl,
    source, destination, checksum⟩, fragmentOffset⟩

/-- The datagram written over a view of exactly its length. -/
theorem writeUdpResponse_datagram (ipRequest : Ipv4Packet) (udpRequest : UdpPacket)
    (dnsResponse : List UInt8) (udpResponse : UdpPacket)
    (sized : udpResponse.buf.length = udpHeader + dnsResponse.length) :
    ∃ udp, writeUdpResponse ipRequest udpRequest dnsResponse udpResponse = some udp ∧
      udp.buf.length = udpResponse.buf.length ∧
      AnswerDatagram ipRequest udpRequest dnsResponse udp := by
  have within : ∀ k, k ≤ 8 → k ≤ udpResponse.buf.length :=
    fun k le => le_trans le udpResponse.minimum
  have reaches : 8 + dnsResponse.length = udpResponse.buf.length := by
    rw [sized, udpHeader]
  let headed := udpResponse.setSource udpRequest.getDestination
    |>.setDestination udpRequest.getSource
    |>.setLength (UInt16.ofNat (udpHeader + dnsResponse.length))
  -- `set_payload` fits: the view is as long as the header and the answer
  have room : dnsResponse.length ≤ headed.buf.length - 8 := by
    simp [headed, UdpPacket.setLength, UdpPacket.setDestination, UdpPacket.setSource,
      UdpPacket.setU16, UdpPacket.write, sized, udpHeader]
  let filled := headed.write 8 dnsResponse
  let udp := filled.setChecksum (filled.ipv4Checksum ipRequest.getDestination ipRequest.getSource)
  have written : writeUdpResponse ipRequest udpRequest dnsResponse udpResponse = some udp := by
    simp only [writeUdpResponse, UdpPacket.setPayload]
    rw [if_pos room]
    rfl
  have checksum : udp.ipv4Checksum ipRequest.getDestination ipRequest.getSource = udp.getChecksum := by
    simp only [udp]
    rw [UdpPacket.ipv4Checksum_setChecksum, UdpPacket.getChecksum_setChecksum]
  obtain ⟨long, source, destination, length, payload⟩ :
      udp.buf.length = udpResponse.buf.length ∧ udp.getSource = udpRequest.getDestination ∧
        udp.getDestination = udpRequest.getSource ∧
        udp.getLength = UInt16.ofNat (udpHeader + dnsResponse.length) ∧
        udp.payload = dnsResponse := by
    simp [udp, filled, headed, UdpPacket.getSource_eq, UdpPacket.getDestination_eq,
      UdpPacket.getLength, UdpPacket.payload, getU16, UdpPacket.setChecksum, UdpPacket.setLength,
      UdpPacket.setDestination, UdpPacket.setSource, UdpPacket.setU16, UdpPacket.write,
      read_write_of_disjoint, read_write_of_length, drop_write_of_le, drop_write_end, within, reaches,
      udpHeader]
  exact ⟨udp, written, long, ⟨source, destination, length, checksum, payload⟩⟩

theorem writeIpResponse_length (ipRequest : Ipv4Packet) (length : Nat) (ipResponse : Ipv4Packet) :
    (writeIpResponse ipRequest length ipResponse).buf.length = ipResponse.buf.length := by
  simp [writeIpResponse, Ipv4Packet.setChecksum, Ipv4Packet.setU16, Ipv4Packet.write,
    Ipv4Packet.setDestination, Ipv4Packet.setSource, Ipv4Packet.setTtl,
    Ipv4Packet.setNextLevelProtocol, Ipv4Packet.setIdentification, Ipv4Packet.setFlags,
    Ipv4Packet.setTotalLength, Ipv4Packet.setEcn, Ipv4Packet.setDscp, Ipv4Packet.setHeaderLength,
    Ipv4Packet.setVersion, Ipv4Packet.setBits]

/-- The header fields are read from the first 20 bytes, so an answer's header is one of any view
that starts with the same bytes. -/
theorem AnswerHeader.of_take {ipRequest : Ipv4Packet} {length : Nat} {ip ip' : Ipv4Packet}
    (same : ip.buf.take 20 = ip'.buf.take 20) (answer : AnswerHeader ipRequest length ip) :
    AnswerHeader ipRequest length ip' := by
  have byte : ∀ k, k < 20 → ip'.buf.getD k 0 = ip.buf.getD k 0 :=
    fun _ inHeader => (Ipv4Packet.getD_of_take same inHeader).symm
  have reads : ∀ off n, off + n ≤ 20 → read ip'.buf off n = read ip.buf off n :=
    fun _ _ inHeader => (Ipv4Packet.read_of_take same inHeader).symm
  obtain ⟨version, headerLength, dscp, ecn, totalLength, flags, identification, protocol, ttl,
    source, destination, checksum⟩ := answer
  have headerLength' : ip'.getHeaderLength = 5 := by
    simpa only [Ipv4Packet.getHeaderLength, get_eq_getD, byte 0 (by decide)] using headerLength
  -- the checksum covers the first 20 bytes of both views
  refine ⟨?version, headerLength', ?dscp, ?ecn, ?totalLength, ?flags, ?identification, ?protocol,
    ?ttl, ?source, ?destination, ?checksum⟩
  case checksum =>
    rw [Ipv4Packet.checksum_of_headerLength headerLength', ← same,
      ← Ipv4Packet.checksum_of_headerLength headerLength, checksum]
    simp only [Ipv4Packet.getChecksum, getU16, reads 10 2 (by decide)]
  all_goals
    simp only [Ipv4Packet.getVersion, Ipv4Packet.getDscp, Ipv4Packet.getEcn,
      Ipv4Packet.getTotalLength, Ipv4Packet.getFlags, Ipv4Packet.getIdentification,
      Ipv4Packet.getNextLevelProtocol, Ipv4Packet.getTtl, Ipv4Packet.getSource_eq,
      Ipv4Packet.getDestination_eq, getU16, get_eq_getD, byte 0 (by decide),
      byte 1 (by decide), byte 6 (by decide), byte 8 (by decide), byte 9 (by decide),
      reads 2 2 (by decide), reads 4 2 (by decide), reads 12 4 (by decide),
      reads 16 4 (by decide)] at *
    assumption

/-- The packet handed to `encapsulate` when the answer fits the buffer: the header over the
buffer's first 20 bytes, then the datagram. -/
theorem respond_eq_some {ipRequest : Ipv4Packet} {udpRequest : UdpPacket}
    {dnsResponse : List UInt8} {receivingBuffer : List UInt8} {ipResponse : Ipv4Packet}
    (view : Ipv4Packet.new receivingBuffer = some ipResponse)
    (fits : ipHeader + udpHeader + dnsResponse.length ≤ receivingBuffer.length) :
    ∃ udp, respond ipRequest udpRequest dnsResponse receivingBuffer =
        some ((writeIpResponse ipRequest (ipHeader + udpHeader + dnsResponse.length)
          ipResponse).buf.take ipHeader ++ udp.buf) ∧
      udp.buf.length = udpHeader + dnsResponse.length ∧
      AnswerDatagram ipRequest udpRequest dnsResponse udp := by
  have viewBuf := Ipv4Packet.buf_of_new view
  simp only [respond, view, Option.bind_eq_bind, Option.bind_some]
  set length := ipHeader + udpHeader + dnsResponse.length with lengthDef
  set header := writeIpResponse ipRequest length ipResponse
  have headerLong : header.buf.length = receivingBuffer.length := by
    rw [writeIpResponse_length, viewBuf]
  -- the view of the datagram is the slice after the header, as long as the datagram
  have cut : slice header.buf ipHeader length = some (read header.buf ipHeader (length - ipHeader)) := by
    rw [slice, if_pos ⟨by omega, by omega⟩]
  have sized : (read header.buf ipHeader (length - ipHeader)).length =
      udpHeader + dnsResponse.length := by
    rw [length_read, headerLong]
    omega
  have minimum : 8 ≤ (read header.buf ipHeader (length - ipHeader)).length := by
    rw [sized, udpHeader]
    omega
  obtain ⟨udp, written, udpLong, datagram⟩ :=
    writeUdpResponse_datagram ipRequest udpRequest dnsResponse ⟨_, minimum⟩ sized
  -- written back, the datagram ends the slice handed on
  have handed : slice (write header.buf ipHeader udp.buf) 0 length =
      some (header.buf.take ipHeader ++ udp.buf) := by
    have ends : length = ipHeader + udp.buf.length := by
      rw [udpLong]
      change length = ipHeader + (read header.buf ipHeader (length - ipHeader)).length
      rw [sized]
      omega
    rw [slice, if_pos ⟨by omega, by rw [length_write]; omega⟩, read_zero, Nat.sub_zero, ends,
      take_write_end (by omega)]
  refine ⟨udp, ?_, udpLong.trans sized, datagram⟩
  rw [cut, Option.bind_some, UdpPacket.new, dif_pos minimum, Option.bind_some, written,
    Option.bind_some, handed]

/-- The slice `receiving_buffer[IP_HEADER..length]` of an answer longer than the buffer
panics. -/
theorem respond_eq_none {ipRequest : Ipv4Packet} {udpRequest : UdpPacket}
    {dnsResponse : List UInt8} {receivingBuffer : List UInt8}
    (tooLong : receivingBuffer.length < ipHeader + udpHeader + dnsResponse.length) :
    respond ipRequest udpRequest dnsResponse receivingBuffer = none := by
  simp only [respond, Option.bind_eq_bind]
  cases view : Ipv4Packet.new receivingBuffer with
  | none => rfl
  | some ipResponse =>
    have longer : (writeIpResponse ipRequest (ipHeader + udpHeader + dnsResponse.length)
        ipResponse).buf.length < ipHeader + udpHeader + dnsResponse.length := by
      rw [writeIpResponse_length, Ipv4Packet.buf_of_new view]
      exact tooLong
    rw [Option.bind_some, slice, if_neg (by omega), Option.bind_none]

/-- What the nameserver hands to `encapsulate` when the answer fits the buffer: an IPv4 packet
carrying the answer's header and datagram, whose fragment offset is the one the buffer held. -/
theorem respond_answers {ipRequest : Ipv4Packet} {udpRequest : UdpPacket}
    {dnsResponse : List UInt8} {receivingBuffer : List UInt8} {ipResponse : Ipv4Packet}
    (view : Ipv4Packet.new receivingBuffer = some ipResponse)
    (sized : receivingBuffer.length = maxPacket)
    (fits : ipHeader + udpHeader + dnsResponse.length ≤ maxPacket) :
    ∃ ip udp, respond ipRequest udpRequest dnsResponse receivingBuffer = some ip.buf ∧
      UdpPacket.new ip.payload = some udp ∧
      AnswerHeader ipRequest (ipHeader + udpHeader + dnsResponse.length) ip ∧
      AnswerDatagram ipRequest udpRequest dnsResponse udp ∧
      ip.getFragmentOffset = ipResponse.getFragmentOffset := by
  obtain ⟨udp, responded, udpLong, datagram⟩ :=
    @respond_eq_some ipRequest udpRequest dnsResponse receivingBuffer ipResponse view
      (by rw [sized]; exact fits)
  set length := ipHeader + udpHeader + dnsResponse.length with lengthDef
  set header := writeIpResponse ipRequest length ipResponse
  have ip20 : ipHeader = 20 := rfl
  have udp8 : udpHeader = 8 := rfl
  have max2048 : maxPacket = 2048 := rfl
  obtain ⟨answer, stale⟩ := writeIpResponse_header ipRequest length ipResponse
  have headerLong : header.buf.length = maxPacket := by
    rw [writeIpResponse_length, Ipv4Packet.buf_of_new view, sized]
  have headLong : (header.buf.take ipHeader).length = 20 := by
    rw [List.length_take, headerLong]
    omega
  have handedLong : (header.buf.take ipHeader ++ udp.buf).length = length := by
    rw [List.length_append, headLong, udpLong]
    omega
  let ip : Ipv4Packet := ⟨header.buf.take ipHeader ++ udp.buf, by
    rw [handedLong]
    omega⟩
  have same : header.buf.take 20 = ip.buf.take 20 := by
    change _ = (header.buf.take 20 ++ udp.buf).take 20
    rw [List.take_append_of_le_length (by simpa [ip20] using headLong.ge), List.take_take,
      Nat.min_self]
  have answer' := answer.of_take same
  -- the total length ends the packet, so its payload is the datagram
  have payload : ip.payload = udp.buf := by
    have total : ip.getTotalLength.toNat = length := by
      rw [answer'.totalLength, UInt16.toNat_ofNat_of_lt' (show length < 65536 by omega)]
    simp only [Ipv4Packet.payload, answer'.headerLength, total]
    change (if (header.buf.take ipHeader ++ udp.buf).length ≤ _ then _ else _) = _
    rw [handedLong, if_neg (by simp only [UInt8.reduceToNat]; omega)]
    change ((header.buf.take ipHeader ++ udp.buf).take _).drop _ = _
    rw [List.take_of_length_le (by rw [handedLong]; simp only [UInt8.reduceToNat]; omega),
      List.drop_append_of_le_length (by simp only [UInt8.reduceToNat]; omega),
      List.drop_eq_nil_of_le (by simp only [UInt8.reduceToNat]; omega), List.nil_append]
  have fragmentOffset : ip.getFragmentOffset = header.getFragmentOffset := by
    simp only [Ipv4Packet.getFragmentOffset, get_eq_getD, Ipv4Packet.getD_of_take same
      (show 6 < 20 by decide), Ipv4Packet.getD_of_take same (show 7 < 20 by decide)]
  refine ⟨ip, udp, responded, ?_, answer', datagram, fragmentOffset.trans stale⟩
  rw [payload, UdpPacket.new, dif_pos udp.minimum]

/-! ### The handler -/

section Outcomes

variable {Query : Type} (fromBytes : List UInt8 → Option Query)
  (lookup : Query → SocketAddr → List UInt8)

theorem handleWriteToTunnelV4_of_parse {leased : Bool} {packet : List UInt8}
    {receivingBuffer : Vector UInt8 maxPacket} {ipRequest : Ipv4Packet} {udpRequest : UdpPacket}
    {dnsRequest : Query}
    (parsed : parseRequest fromBytes leased packet = some (ipRequest, udpRequest, dnsRequest)) :
    handleWriteToTunnelV4 fromBytes lookup leased packet receivingBuffer =
      match respond ipRequest udpRequest
          (lookup dnsRequest ⟨.v4 ipRequest.getSource, udpRequest.getSource⟩)
          receivingBuffer.toList with
      | some packet => .encapsulate packet
      | none => .panicked := by
  simp only [handleWriteToTunnelV4, parsed]

/-- A checked request whose answer fits the buffer is answered: the packet handed to
`encapsulate` carries the answer's header and datagram, and the fragment offset the buffer held. -/
theorem handleWriteToTunnelV4_answers {leased : Bool} {packet : List UInt8}
    {receivingBuffer : Vector UInt8 maxPacket} {ipRequest : Ipv4Packet} {udpRequest : UdpPacket}
    {dnsRequest : Query}
    (parsed : parseRequest fromBytes leased packet = some (ipRequest, udpRequest, dnsRequest))
    (fits : ipHeader + udpHeader +
      (lookup dnsRequest ⟨.v4 ipRequest.getSource, udpRequest.getSource⟩).length ≤ maxPacket) :
    ∃ ip udp, handleWriteToTunnelV4 fromBytes lookup leased packet receivingBuffer =
        .encapsulate ip.buf ∧
      UdpPacket.new ip.payload = some udp ∧
      AnswerHeader ipRequest (ipHeader + udpHeader +
        (lookup dnsRequest ⟨.v4 ipRequest.getSource, udpRequest.getSource⟩).length) ip ∧
      AnswerDatagram ipRequest udpRequest
        (lookup dnsRequest ⟨.v4 ipRequest.getSource, udpRequest.getSource⟩) udp ∧
      ∀ stale, Ipv4Packet.new receivingBuffer.toList = some stale →
        ip.getFragmentOffset = stale.getFragmentOffset := by
  have sized : receivingBuffer.toList.length = maxPacket := Vector.length_toList
  have view : Ipv4Packet.new receivingBuffer.toList =
      some ⟨receivingBuffer.toList, by rw [sized]; decide⟩ :=
    dif_pos _
  obtain ⟨ip, udp, responded, isUdp, header, datagram, fragmentOffset⟩ :=
    respond_answers view sized fits
  refine ⟨ip, udp, ?_, isUdp, header, datagram, ?_⟩
  · rw [handleWriteToTunnelV4_of_parse fromBytes lookup parsed, responded]
  · intro stale viewed
    rw [view, Option.some.injEq] at viewed
    rw [fragmentOffset, ← viewed]

/-- The task panics exactly on a checked request whose answer does not fit the buffer. -/
theorem handleWriteToTunnelV4_eq_panicked {leased : Bool} {packet : List UInt8}
    {receivingBuffer : Vector UInt8 maxPacket} :
    handleWriteToTunnelV4 fromBytes lookup leased packet receivingBuffer = .panicked ↔
      ∃ ipRequest udpRequest dnsRequest,
        parseRequest fromBytes leased packet = some (ipRequest, udpRequest, dnsRequest) ∧
        maxPacket < ipHeader + udpHeader +
          (lookup dnsRequest ⟨.v4 ipRequest.getSource, udpRequest.getSource⟩).length := by
  constructor
  · intro panicked
    cases parsed : parseRequest fromBytes leased packet with
    | none => simp [handleWriteToTunnelV4, parsed] at panicked
    | some request =>
      obtain ⟨ipRequest, udpRequest, dnsRequest⟩ := request
      refine ⟨ipRequest, udpRequest, dnsRequest, rfl, ?_⟩
      -- an answer that fits is encapsulated, not a panic
      by_contra fits
      obtain ⟨ip, -, answered, -⟩ :=
        @handleWriteToTunnelV4_answers Query fromBytes lookup leased packet receivingBuffer
          ipRequest udpRequest dnsRequest parsed (Nat.le_of_not_lt fits)
      rw [answered] at panicked
      cases panicked
  · rintro ⟨ipRequest, udpRequest, dnsRequest, parsed, tooLong⟩
    rw [handleWriteToTunnelV4_of_parse fromBytes lookup parsed,
      respond_eq_none (by rw [Vector.length_toList]; exact tooLong)]

end Outcomes

/-! ### A query for `nord` -/

/-- A standard query for `nord`, type A, from `100.64.0.2:50000` to the magic DNS address
`100.100.100.100:53`, with both checksums right. -/
def nordQuery : List UInt8 :=
  [69, 0, 0, 50, 28, 70, 64, 0, 64, 17, 241, 106, 100, 64, 0, 2, 100, 100, 100, 100,
    195, 80, 0, 53, 0, 30, 36, 10,
    18, 52, 1, 0, 0, 1, 0, 0, 0, 0, 0, 0, 4, 110, 111, 114, 100, 0, 0, 1, 0, 1]

/-- The zone's answer: `nord` is `10.5.0.1`. -/
def nordAnswer : List UInt8 :=
  [18, 52, 129, 128, 0, 1, 0, 1, 0, 0, 0, 0, 4, 110, 111, 114, 100, 0, 0, 1, 0, 1,
    192, 12, 0, 1, 0, 1, 0, 0, 0, 60, 0, 4, 10, 5, 0, 1]

/-- The receive buffer after the socket read the WireGuard data message that carried the query:
type 4, receiver index `0x05931729` little-endian, counter 1, and zeros after. -/
def wgMessageBuffer : Vector UInt8 maxPacket :=
  ⟨(([4, 0, 0, 0, 0x29, 0x17, 0x93, 0x05, 1, 0, 0, 0, 0, 0, 0, 0] : List UInt8) ++
    List.replicate (maxPacket - 16) 0).toArray, by
      rw [List.size_toArray, List.length_append, List.length_replicate]
      rfl⟩

/-- The query passes every check. Answered with `nordAnswer`, the packet handed to
`encapsulate` has fragment offset `0x1305`: the low five bits of byte 6 and byte 7 of the receiver
index still in the buffer. Answered with 2021 bytes, the slice for the UDP datagram panics. -/
theorem dns_answer_keeps_stale_fragment_offset :
    (parseRequest some true nordQuery).isSome ∧
      (∃ ip : Ipv4Packet, handleWriteToTunnelV4 some (fun _ _ => nordAnswer) true nordQuery wgMessageBuffer =
          .encapsulate ip.buf ∧ ip.getFragmentOffset = 0x1305) ∧
      handleWriteToTunnelV4 some (fun _ _ => List.replicate 2021 0) true nordQuery
        wgMessageBuffer = .panicked := by
  have checked : (parseRequest some true nordQuery).isSome := by decide
  obtain ⟨⟨ipRequest, udpRequest, dnsRequest⟩, parsed⟩ := Option.isSome_iff_exists.mp checked
  have view : Ipv4Packet.new wgMessageBuffer.toList =
      some ⟨wgMessageBuffer.toList, by rw [Vector.length_toList]; decide⟩ :=
    dif_pos _
  obtain ⟨ip, -, answered, -, -, -, stale⟩ :=
    handleWriteToTunnelV4_answers some (fun _ _ => nordAnswer) parsed (by decide)
  refine ⟨checked, ⟨ip, answered, ?_⟩, ?_⟩
  · rw [stale _ view]
    decide
  · have tooLong : maxPacket < ipHeader + udpHeader + (List.replicate 2021 (0 : UInt8)).length := by
      rw [List.length_replicate]
      decide
    exact (handleWriteToTunnelV4_eq_panicked some (fun _ _ => List.replicate 2021 0)).mpr
      ⟨_, _, _, parsed, tooLong⟩

end Libtelio.TelioDns
