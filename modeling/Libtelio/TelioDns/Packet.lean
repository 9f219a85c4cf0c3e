/- The `pnet_packet` views the nameserver reads a request through and writes its answer with.

   They extend the views of `TelioFirewall.Packet` with the fields the nameserver copies, the
   setters of `MutableIpv4Packet` and `MutableUdpPacket`, and the checksums of `pnet_packet::ipv4`
   and `pnet_packet::udp`. A setter writes its field's bytes in place; one of a few bits keeps the
   other bits of its byte. A view's payload is where `pnet` puts it: after the options, up to the
   total length, cut at the end of the buffer. -/

import Libtelio.TelioFirewall.Packet
import Libtelio.Lib.InternetChecksum

set_option autoImplicit false
set_option relaxedAutoImplicit false

namespace Libtelio.TelioFirewall

open Libtelio.Lib.BigEndian Libtelio.Lib.Buffer Libtelio.Net

/-- A big-endian `u16` field at byte `off`. -/
def getU16 (buf : List UInt8) (off : Nat) : UInt16 :=
  UInt16.ofNat (ofBytes (read buf off 2))

/-! ### `Ipv4Packet` -/

def Ipv4Packet.getDscp (ip : Ipv4Packet) : UInt8 :=
  ip.buf.get ⟨1, by have := ip.minimum; omega⟩ >>> 2

def Ipv4Packet.getEcn (ip : Ipv4Packet) : UInt8 :=
  ip.buf.get ⟨1, by have := ip.minimum; omega⟩ &&& 0x03

def Ipv4Packet.getTotalLength (ip : Ipv4Packet) : UInt16 := getU16 ip.buf 2

def Ipv4Packet.getIdentification (ip : Ipv4Packet) : UInt16 := getU16 ip.buf 4

def Ipv4Packet.getFlags (ip : Ipv4Packet) : UInt8 :=
  ip.buf.get ⟨6, by have := ip.minimum; omega⟩ >>> 5

/-- The low five bits of byte 6, then byte 7. -/
def Ipv4Packet.getFragmentOffset (ip : Ipv4Packet) : UInt16 :=
  (ip.buf.get ⟨6, by have := ip.minimum; omega⟩ &&& 0x1f).toUInt16 <<< 8 |||
    (ip.buf.get ⟨7, by have := ip.minimum; omega⟩).toUInt16

def Ipv4Packet.getTtl (ip : Ipv4Packet) : UInt8 :=
  ip.buf.get ⟨8, by have := ip.minimum; omega⟩

def Ipv4Packet.getChecksum (ip : Ipv4Packet) : UInt16 := getU16 ip.buf 10

/-- `payload()`: from the end of the options, `max 20 (4 * IHL)`, for the total length less the
header, cut at the end of the buffer; empty when the options reach the end. -/
def Ipv4Packet.payload (ip : Ipv4Packet) : List UInt8 :=
  let headerLength := ip.getHeaderLength.toNat * 4
  let start := 20 + (headerLength - 20)
  let stop := min (start + (ip.getTotalLength.toNat - headerLength)) ip.buf.length
  if ip.buf.length ≤ start then [] else (ip.buf.take stop).drop start

/-- `ipv4::checksum`: over the header, its length clamped to the buffer, the checksum's own word
skipped. -/
def Ipv4Packet.checksum (ip : Ipv4Packet) : UInt16 :=
  let length := ip.getHeaderLength.toNat * 4
  let headerLength :=
    if length < 20 then 20 else if length > ip.buf.length then ip.buf.length else length
  Lib.InternetChecksum.checksum (ip.buf.take headerLength) 5

/-- A write through `MutableIpv4Packet` keeps the buffer's length. -/
def Ipv4Packet.write (ip : Ipv4Packet) (off : Nat) (bytes : List UInt8) : Ipv4Packet :=
  ⟨Lib.Buffer.write ip.buf off bytes, (length_write ip.buf off bytes).symm ▸ ip.minimum⟩

/-- The bits `mask` of byte `i` set from `v`, the byte's other bits kept. -/
def Ipv4Packet.setBits (ip : Ipv4Packet) (i : Nat) (mask v : UInt8) : Ipv4Packet :=
  ip.write i [(ip.buf.getD i 0 &&& ~~~mask) ||| (v &&& mask)]

def Ipv4Packet.setU16 (ip : Ipv4Packet) (off : Nat) (v : UInt16) : Ipv4Packet :=
  ip.write off (toBytes 2 v.toNat)

def Ipv4Packet.setVersion (ip : Ipv4Packet) (v : UInt8) : Ipv4Packet := ip.setBits 0 0xf0 (v <<< 4)

def Ipv4Packet.setHeaderLength (ip : Ipv4Packet) (v : UInt8) : Ipv4Packet := ip.setBits 0 0x0f v

def Ipv4Packet.setDscp (ip : Ipv4Packet) (v : UInt8) : Ipv4Packet := ip.setBits 1 0xfc (v <<< 2)

def Ipv4Packet.setEcn (ip : Ipv4Packet) (v : UInt8) : Ipv4Packet := ip.setBits 1 0x03 v

def Ipv4Packet.setTotalLength (ip : Ipv4Packet) (v : UInt16) : Ipv4Packet := ip.setU16 2 v

def Ipv4Packet.setIdentification (ip : Ipv4Packet) (v : UInt16) : Ipv4Packet := ip.setU16 4 v

def Ipv4Packet.setFlags (ip : Ipv4Packet) (v : UInt8) : Ipv4Packet := ip.setBits 6 0xe0 (v <<< 5)

def Ipv4Packet.setTtl (ip : Ipv4Packet) (v : UInt8) : Ipv4Packet := ip.write 8 [v]

def Ipv4Packet.setNextLevelProtocol (ip : Ipv4Packet) (v : UInt8) : Ipv4Packet := ip.write 9 [v]

def Ipv4Packet.setChecksum (ip : Ipv4Packet) (v : UInt16) : Ipv4Packet := ip.setU16 10 v

def Ipv4Packet.setSource (ip : Ipv4Packet) (addr : Ipv4Addr) : Ipv4Packet :=
  ip.write 12 (toBytes 4 addr.bits.toNat)

def Ipv4Packet.setDestination (ip : Ipv4Packet) (addr : Ipv4Addr) : Ipv4Packet :=
  ip.write 16 (toBytes 4 addr.bits.toNat)

/-! ### `UdpPacket` -/

def UdpPacket.getLength (udp : UdpPacket) : UInt16 := getU16 udp.buf 4

def UdpPacket.getChecksum (udp : UdpPacket) : UInt16 := getU16 udp.buf 6

/-- `payload()`: the rest of the buffer. -/
def UdpPacket.payload (udp : UdpPacket) : List UInt8 := udp.buf.drop 8

/-- `udp::ipv4_checksum`: the datagram and the pseudo-header, the checksum's own word skipped. -/
def UdpPacket.ipv4Checksum (udp : UdpPacket) (source destination : Ipv4Addr) : UInt16 :=
  Lib.InternetChecksum.ipv4Checksum udp.buf 3 [] source.bits destination.bits IpNextHeaderProtocols.udp

def UdpPacket.write (udp : UdpPacket) (off : Nat) (bytes : List UInt8) : UdpPacket :=
  ⟨Lib.Buffer.write udp.buf off bytes, (length_write udp.buf off bytes).symm ▸ udp.minimum⟩

def UdpPacket.setU16 (udp : UdpPacket) (off : Nat) (v : UInt16) : UdpPacket :=
  udp.write off (toBytes 2 v.toNat)

def UdpPacket.setSource (udp : UdpPacket) (v : UInt16) : UdpPacket := udp.setU16 0 v

def UdpPacket.setDestination (udp : UdpPacket) (v : UInt16) : UdpPacket := udp.setU16 2 v

def UdpPacket.setLength (udp : UdpPacket) (v : UInt16) : UdpPacket := udp.setU16 4 v

def UdpPacket.setChecksum (udp : UdpPacket) (v : UInt16) : UdpPacket := udp.setU16 6 v

/-- `set_payload`, which panics (`none`) on a payload longer than the view's. -/
def UdpPacket.setPayload (udp : UdpPacket) (vals : List UInt8) : Option UdpPacket :=
  if vals.length ≤ udp.buf.length - 8 then some (udp.write 8 vals) else none

/-! ### Reading back what was written

The getters of `TelioFirewall.Packet` read slices of the buffer; `read` names them, so that the
buffer's read lemmas apply to every field. -/

theorem Ipv4Packet.getSource_eq (ip : Ipv4Packet) :
    ip.getSource = ⟨UInt32.ofNat (ofBytes (read ip.buf 12 4))⟩ := rfl

theorem Ipv4Packet.getDestination_eq (ip : Ipv4Packet) :
    ip.getDestination = ⟨UInt32.ofNat (ofBytes (read ip.buf 16 4))⟩ := rfl

theorem UdpPacket.getSource_eq (udp : UdpPacket) : udp.getSource = getU16 udp.buf 0 := rfl

theorem UdpPacket.getDestination_eq (udp : UdpPacket) : udp.getDestination = getU16 udp.buf 2 := rfl

@[simp] theorem ofNat_ofBytes_toBytes_two (n : Nat) :
    UInt16.ofNat (ofBytes (toBytes 2 n)) = UInt16.ofNat n := by
  apply UInt16.toNat_inj.mp
  simp [ofBytes_toBytes_mod]

@[simp] theorem ofNat_ofBytes_toBytes_four (n : Nat) :
    UInt32.ofNat (ofBytes (toBytes 4 n)) = UInt32.ofNat n := by
  apply UInt32.toNat_inj.mp
  simp [ofBytes_toBytes_mod]

theorem getU16_write_self {buf : List UInt8} {off : Nat} {v : UInt16} (fits : off + 2 ≤ buf.length) :
    getU16 (write buf off (toBytes 2 v.toNat)) off = v := by
  rw [getU16, read_write_of_length (toBytes_length 2 _).symm (by rw [toBytes_length]; exact fits),
    ofNat_ofBytes_toBytes_two, UInt16.ofNat_toNat]

theorem Ipv4Packet.getChecksum_setChecksum (ip : Ipv4Packet) (v : UInt16) :
    (ip.setChecksum v).getChecksum = v :=
  getU16_write_self (by have := ip.minimum; omega)

theorem UdpPacket.getChecksum_setChecksum (udp : UdpPacket) (v : UInt16) :
    (udp.setChecksum v).getChecksum = v :=
  getU16_write_self (by have := udp.minimum; omega)

theorem Ipv4Packet.buf_of_new {buffer : List UInt8} {ip : Ipv4Packet}
    (view : Ipv4Packet.new buffer = some ip) : ip.buf = buffer := by
  unfold Ipv4Packet.new at view
  split at view
  · cases view
    rfl
  · contradiction

theorem get_eq_getD (l : List UInt8) (k : Nat) (h : k < l.length) : l.get ⟨k, h⟩ = l.getD k 0 := by
  simp [List.getD_eq_getElem?_getD, List.getElem?_eq_getElem h]

/-- The fixed header is the first 20 bytes: two views that agree there read the same bytes. -/
theorem Ipv4Packet.getD_of_take {ip ip' : Ipv4Packet} (same : ip.buf.take 20 = ip'.buf.take 20)
    {k : Nat} (inHeader : k < 20) : ip.buf.getD k 0 = ip'.buf.getD k 0 := by
  have read := congrArg (fun l : List UInt8 => l.getD k 0) same
  simpa [List.getD_eq_getElem?_getD, List.getElem?_take, inHeader] using read

theorem Ipv4Packet.read_of_take {ip ip' : Ipv4Packet} (same : ip.buf.take 20 = ip'.buf.take 20)
    {off n : Nat} (inHeader : off + n ≤ 20) : read ip.buf off n = read ip'.buf off n := by
  rw [← read_take inHeader, same, read_take inHeader]

/-- A header of five words is checked over its 20 bytes. -/
theorem Ipv4Packet.checksum_of_headerLength {ip : Ipv4Packet} (five : ip.getHeaderLength = 5) :
    ip.checksum = Lib.InternetChecksum.checksum (ip.buf.take 20) 5 := by
  have minimum := ip.minimum
  simp only [Ipv4Packet.checksum, five]
  rw [if_neg (by decide), if_neg (by simp only [UInt8.reduceToNat]; omega)]
  rfl

/-- Writing the checksum field leaves the checksum it is checked against unchanged. -/
theorem Ipv4Packet.checksum_setChecksum (ip : Ipv4Packet) (v : UInt16) :
    (ip.setChecksum v).checksum = ip.checksum := by
  have minimum := ip.minimum
  have ihl : (ip.setChecksum v).getHeaderLength = ip.getHeaderLength := by
    simp [Ipv4Packet.setChecksum, Ipv4Packet.setU16, Ipv4Packet.write, Ipv4Packet.getHeaderLength,
      getElem_write]
  have long : (ip.setChecksum v).buf.length = ip.buf.length := length_write _ _ _
  unfold Ipv4Packet.checksum
  rw [ihl, long]
  -- the header read is at least the 20-byte minimum, so it holds the checksum word
  have covers : 10 + (toBytes 2 v.toNat).length ≤
      (if ip.getHeaderLength.toNat * 4 < 20 then 20
        else if ip.getHeaderLength.toNat * 4 > ip.buf.length then ip.buf.length
        else ip.getHeaderLength.toNat * 4) := by
    rw [toBytes_length]
    split_ifs <;> omega
  change Lib.InternetChecksum.checksum ((Lib.Buffer.write ip.buf 10 (toBytes 2 v.toNat)).take _) 5 = _
  rw [take_write covers, toBytes_two, show 10 = 2 * 5 from rfl,
    Lib.InternetChecksum.checksum_write_skipped]

theorem UdpPacket.ipv4Checksum_setChecksum (udp : UdpPacket) (v : UInt16) (source destination : Ipv4Addr) :
    (udp.setChecksum v).ipv4Checksum source destination = udp.ipv4Checksum source destination := by
  unfold UdpPacket.ipv4Checksum
  change Lib.InternetChecksum.ipv4Checksum (Lib.Buffer.write udp.buf (2 * 3) (toBytes 2 v.toNat)) _ _ _ _ _ = _
  rw [toBytes_two, Lib.InternetChecksum.ipv4Checksum_write_skipped]

end Libtelio.TelioFirewall
