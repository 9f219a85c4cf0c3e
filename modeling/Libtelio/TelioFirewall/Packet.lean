/- The `pnet_packet` views the firewall reads packets through.

   Each view is a byte buffer with its minimum length as a field, so that every accessor reads
   inside the buffer; `new` returns `None` on a shorter buffer, as `pnet` does. The accessors
   read the fields at their RFC 791 / 768 / 793 / 792 offsets, multi-byte fields big-endian.
   `sliceFrom` is `&buffer[n..]`, which panics when `n` is past the end: the firewall's callers
   see that as `none`. -/

import Libtelio.Lib.BigEndian
import Libtelio.Net.Addr

set_option autoImplicit false
set_option relaxedAutoImplicit false

namespace Libtelio.TelioFirewall

open Libtelio.Lib.BigEndian Libtelio.Net

/-- `&buffer[n..]`: the bytes from offset `n` on, or a panic (`none`) when `n` is past the
end of the buffer. -/
def sliceFrom (buffer : List UInt8) (n : Nat) : Option (List UInt8) :=
  if n ≤ buffer.length then some (buffer.drop n) else none

/-- `pnet_packet::ipv4::Ipv4Packet`, over a buffer of at least the 20-byte minimum header. -/
structure Ipv4Packet where
  buf : List UInt8
  minimum : 20 ≤ buf.length

/-- `Ipv4Packet::new`. -/
def Ipv4Packet.new (buffer : List UInt8) : Option Ipv4Packet :=
  if h : 20 ≤ buffer.length then some ⟨buffer, h⟩ else none

/-- The version nibble. -/
def Ipv4Packet.getVersion (ip : Ipv4Packet) : UInt8 :=
  ip.buf.get ⟨0, by have := ip.minimum; omega⟩ >>> 4

/-- The header length nibble (IHL), in 32-bit words. -/
def Ipv4Packet.getHeaderLength (ip : Ipv4Packet) : UInt8 :=
  ip.buf.get ⟨0, by have := ip.minimum; omega⟩ &&& 0x0f

/-- The protocol byte. -/
def Ipv4Packet.getNextLevelProtocol (ip : Ipv4Packet) : UInt8 :=
  ip.buf.get ⟨9, by have := ip.minimum; omega⟩

/-- Bytes 12 to 15. -/
def Ipv4Packet.getSource (ip : Ipv4Packet) : Ipv4Addr :=
  ⟨UInt32.ofNat (ofBytes ((ip.buf.drop 12).take 4))⟩

/-- Bytes 16 to 19. -/
def Ipv4Packet.getDestination (ip : Ipv4Packet) : Ipv4Addr :=
  ⟨UInt32.ofNat (ofBytes ((ip.buf.drop 16).take 4))⟩

/-- `IpNextHeaderProtocols`: the protocol numbers the firewall dispatches on. -/
def IpNextHeaderProtocols.icmp : UInt8 := 1
def IpNextHeaderProtocols.tcp : UInt8 := 6
def IpNextHeaderProtocols.udp : UInt8 := 17

/-- `pnet_packet::udp::UdpPacket`, over at least the 8-byte header. -/
structure UdpPacket where
  buf : List UInt8
  minimum : 8 ≤ buf.length

/-- `UdpPacket::new`. -/
def UdpPacket.new (buffer : List UInt8) : Option UdpPacket :=
  if h : 8 ≤ buffer.length then some ⟨buffer, h⟩ else none

def UdpPacket.getSource (udp : UdpPacket) : UInt16 := UInt16.ofNat (ofBytes (udp.buf.take 2))

def UdpPacket.getDestination (udp : UdpPacket) : UInt16 :=
  UInt16.ofNat (ofBytes ((udp.buf.drop 2).take 2))

/-- `pnet_packet::tcp::TcpPacket`, over at least the 20-byte header. -/
structure TcpPacket where
  buf : List UInt8
  minimum : 20 ≤ buf.length

/-- `TcpPacket::new`. -/
def TcpPacket.new (buffer : List UInt8) : Option TcpPacket :=
  if h : 20 ≤ buffer.length then some ⟨buffer, h⟩ else none

def TcpPacket.getSource (tcp : TcpPacket) : UInt16 := UInt16.ofNat (ofBytes (tcp.buf.take 2))

def TcpPacket.getDestination (tcp : TcpPacket) : UInt16 :=
  UInt16.ofNat (ofBytes ((tcp.buf.drop 2).take 2))

/-- The nine flag bits (`u9be`): the low bit of byte 12 and all of byte 13. -/
def TcpPacket.getFlags (tcp : TcpPacket) : UInt16 :=
  ((tcp.buf.get ⟨12, by have := tcp.minimum; omega⟩ &&& 1).toUInt16 <<< 8) |||
    (tcp.buf.get ⟨13, by have := tcp.minimum; omega⟩).toUInt16

/-- `pnet_packet::tcp::TcpFlags`. -/
def TcpFlags.FIN : UInt16 := 0b000000001
def TcpFlags.SYN : UInt16 := 0b000000010
def TcpFlags.RST : UInt16 := 0b000000100
def TcpFlags.ACK : UInt16 := 0b000010000

/-- `pnet_packet::icmp::IcmpPacket`, over at least the 4-byte header. -/
structure IcmpPacket where
  buf : List UInt8
  minimum : 4 ≤ buf.length

/-- `IcmpPacket::new`. -/
def IcmpPacket.new (buffer : List UInt8) : Option IcmpPacket :=
  if h : 4 ≤ buffer.length then some ⟨buffer, h⟩ else none

def IcmpPacket.getIcmpType (icmp : IcmpPacket) : UInt8 :=
  icmp.buf.get ⟨0, by have := icmp.minimum; omega⟩

/-- `IcmpTypes`: the request types the firewall blocks. -/
def IcmpTypes.EchoRequest : UInt8 := 8
def IcmpTypes.Timestamp : UInt8 := 13
def IcmpTypes.InformationRequest : UInt8 := 15
def IcmpTypes.AddressMaskRequest : UInt8 := 17

end Libtelio.TelioFirewall
