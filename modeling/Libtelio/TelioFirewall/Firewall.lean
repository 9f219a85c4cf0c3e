/- The stateful packet filter of `telio-firewall` (`firewall.rs`).

   The firewall keeps two connection-tracking caches, for UDP and for TCP, keyed by the
   connection's 4-tuple as the *remote* side sends it, and a whitelist of networks and peers.
   An outbound packet opens a pinhole for the mirrored tuple; an inbound packet is accepted
   when its tuple has a pinhole, or when its peer or source is whitelisted, in which case a
   remote-initiated entry is recorded.

   The `lru_time_cache` caches are finite maps here; eviction and expiry are the separate
   `drop` steps of the run model in `Conntrack`. The packet functions return `none` where the
   source panics (a header length past the end of the buffer); otherwise the verdict and the
   new state. -/

import Mathlib.Data.Finset.Basic
import Mathlib.Data.List.AList
import Libtelio.TelioCrypto.Key
import Libtelio.TelioFirewall.Packet

set_option autoImplicit false
set_option relaxedAutoImplicit false

namespace Libtelio.TelioFirewall

open Libtelio.Net Libtelio.TelioCrypto

/-- `Whitelist`: the networks and the peers allowed to connect. -/
structure Whitelist where
  networkWhitelist : Finset IpNetwork
  peerWhitelist : Finset PublicKey

/-- `ConnectionInfo`, the value of a UDP conntrack entry. -/
structure ConnectionInfo where
  connRemoteInitiated : Bool
  deriving DecidableEq, Repr

/-- `TcpConnectionInfo`: which directions are still open, and who opened the connection. -/
structure TcpConnectionInfo where
  txAlive : Bool
  rxAlive : Bool
  connRemoteInitiated : Bool
  deriving DecidableEq, Repr

/-- `IpConnWithPort`: the conntrack key, `(src, sport, dst, dport)`. -/
structure IpConnWithPort where
  srcAddr : UInt32
  srcPort : UInt16
  dstAddr : UInt32
  dstPort : UInt16
  deriving DecidableEq, Repr

/-- The tuple of the same connection seen from the other side. -/
def IpConnWithPort.mirror (key : IpConnWithPort) : IpConnWithPort :=
  ⟨key.dstAddr, key.dstPort, key.srcAddr, key.srcPort⟩

@[simp] theorem IpConnWithPort.mirror_mirror (key : IpConnWithPort) : key.mirror.mirror = key :=
  rfl

/-- `Firewall`: the two conntrack caches and the whitelist. -/
structure Firewall where
  udp : AList (fun _ : IpConnWithPort => ConnectionInfo)
  tcp : AList (fun _ : IpConnWithPort => TcpConnectionInfo)
  whitelist : Whitelist

/-- `Firewall::new`: empty caches and an empty whitelist. -/
def Firewall.new : Firewall :=
  ⟨∅, ∅, ⟨∅, ∅⟩⟩

/-- `TCP_FIRST_PKT_MASK`. -/
def TCP_FIRST_PKT_MASK : UInt16 := TcpFlags.SYN ||| TcpFlags.ACK

/-- `ICMP_BLOCK_TYPES_MASK`: one bit per blocked request type. -/
def ICMP_BLOCK_TYPES_MASK : UInt32 :=
  (1 <<< IcmpTypes.EchoRequest.toUInt32) ||| (1 <<< IcmpTypes.Timestamp.toUInt32) |||
    (1 <<< IcmpTypes.InformationRequest.toUInt32) ||| (1 <<< IcmpTypes.AddressMaskRequest.toUInt32)

/-- `check_valid`: IPv4 with a header of at least five words. -/
def checkValid (ip : Ipv4Packet) : Bool :=
  ip.getVersion == 4 && 5 ≤ ip.getHeaderLength

/-- `Firewall::is_whitelisted`: the peer is whitelisted, or some whitelisted network contains
the address. -/
def isWhitelisted (whitelist : Whitelist) (peer : PublicKey) (ip : Ipv4Addr) : Bool :=
  decide (peer ∈ whitelist.peerWhitelist) ||
    decide (∃ ipNet ∈ whitelist.networkWhitelist, ipNet.contains (.v4 ip) = true)

/-- The header length in bytes, `ip.get_header_length() as usize * 4`. -/
def Ipv4Packet.headerLenBytes (ip : Ipv4Packet) : Nat := ip.getHeaderLength.toNat * 4

/-- The conntrack update of `handle_outbound_udp` at the (mirrored) key: open a pinhole unless
one exists; an existing entry keeps its value, `get` only refreshing its timer. -/
def Firewall.outboundUdpEntry (self : Firewall) (key : IpConnWithPort) : Firewall :=
  if (self.udp.lookup key).isNone then
    { self with udp := self.udp.insert key ⟨false⟩ }
  else
    self

/-- `handle_outbound_udp`: the key is the packet's tuple seen from the remote side. -/
def Firewall.handleOutboundUdp (self : Firewall) (ip : Ipv4Packet) (buffer : List UInt8) :
    Option Firewall := do
  let payload ← sliceFrom buffer ip.headerLenBytes
  match UdpPacket.new payload with
  | none => pure self
  | some udpPacket =>
    pure (self.outboundUdpEntry
      ⟨ip.getDestination.bits, udpPacket.getDestination, ip.getSource.bits, udpPacket.getSource⟩)

/-- The conntrack update of `handle_outbound_tcp`: a first SYN opens (or reopens) the pinhole,
an RST closes it, a FIN closes our direction and removes the entry once both are closed. -/
def Firewall.outboundTcpEntry (self : Firewall) (key : IpConnWithPort) (flags : UInt16) :
    Firewall :=
  if flags &&& TCP_FIRST_PKT_MASK == TcpFlags.SYN then
    { self with tcp := self.tcp.insert key ⟨true, true, false⟩ }
  else if flags &&& TcpFlags.RST == TcpFlags.RST then
    { self with tcp := self.tcp.erase key }
  else if flags &&& TcpFlags.FIN == TcpFlags.FIN then
    match self.tcp.lookup key with
    | some connection =>
      let connection := { connection with txAlive := false }
      if !connection.rxAlive then
        { self with tcp := self.tcp.erase key }
      else
        { self with tcp := self.tcp.insert key connection }
    | none => self
  else
    self

/-- `handle_outbound_tcp`. -/
def Firewall.handleOutboundTcp (self : Firewall) (ip : Ipv4Packet) (buffer : List UInt8) :
    Option Firewall := do
  let payload ← sliceFrom buffer ip.headerLenBytes
  match TcpPacket.new payload with
  | none => pure self
  | some tcpPacket =>
    pure (self.outboundTcpEntry
      ⟨ip.getDestination.bits, tcpPacket.getDestination, ip.getSource.bits, tcpPacket.getSource⟩
      tcpPacket.getFlags)

/-- `process_outbound_packet`: whitelisted peers skip conntrack; every other valid IPv4 packet
is accepted, after UDP and TCP packets have opened their pinholes. -/
def Firewall.processOutboundPacket (self : Firewall) (publicKey : PublicKey)
    (buffer : List UInt8) : Option (Bool × Firewall) :=
  match Ipv4Packet.new buffer with
  | none => some (false, self)
  | some ip =>
    if publicKey ∈ self.whitelist.peerWhitelist then
      some (true, self)
    else if !checkValid ip then
      some (false, self)
    else
      let next :=
        if ip.getNextLevelProtocol = IpNextHeaderProtocols.udp then
          self.handleOutboundUdp ip buffer
        else if ip.getNextLevelProtocol = IpNextHeaderProtocols.tcp then
          self.handleOutboundTcp ip buffer
        else
          some self
      next.map fun fw => (true, fw)

/-- The conntrack decision of `handle_inbound_udp` for a packet from `source` with tuple `key`:
a tracked tuple is accepted unless its entry was opened by a remote that is no longer
whitelisted (the entry is then dropped); an untracked one only from a whitelisted source, which
then gets a remote-initiated entry. -/
def Firewall.inboundUdpEntry (self : Firewall) (whitelist : Whitelist) (peer : PublicKey)
    (source : Ipv4Addr) (key : IpConnWithPort) : Bool × Firewall :=
  match self.udp.lookup key with
  | some connectionInfo =>
    if connectionInfo.connRemoteInitiated && !isWhitelisted whitelist peer source then
      (false, { self with udp := self.udp.erase key })
    else
      (true, self)
  | none =>
    if !isWhitelisted whitelist peer source then
      (false, self)
    else
      (true, { self with udp := self.udp.insert key ⟨true⟩ })

/-- `handle_inbound_udp`: the key is the packet's own tuple. -/
def Firewall.handleInboundUdp (self : Firewall) (whitelist : Whitelist) (peer : PublicKey)
    (ip : Ipv4Packet) (buffer : List UInt8) : Option (Bool × Firewall) := do
  let payload ← sliceFrom buffer ip.headerLenBytes
  match UdpPacket.new payload with
  | none => pure (false, self)
  | some udpPacket =>
    pure (self.inboundUdpEntry whitelist peer ip.getSource
      ⟨ip.getSource.bits, udpPacket.getSource, ip.getDestination.bits, udpPacket.getDestination⟩)

/-- The conntrack decision of `handle_inbound_tcp`: a tracked tuple is accepted (RST and FIN
close it as on the way out) unless it was opened by a remote no longer whitelisted; an
untracked one only from a whitelisted source, a first SYN then recording a remote-initiated
entry. -/
def Firewall.inboundTcpEntry (self : Firewall) (whitelist : Whitelist) (peer : PublicKey)
    (source : Ipv4Addr) (key : IpConnWithPort) (flags : UInt16) : Bool × Firewall :=
  match self.tcp.lookup key with
  | some connectionInfo =>
    if connectionInfo.connRemoteInitiated && !isWhitelisted whitelist peer source then
      (false, { self with tcp := self.tcp.erase key })
    else if flags &&& TcpFlags.RST == TcpFlags.RST then
      (true, { self with tcp := self.tcp.erase key })
    else if flags &&& TcpFlags.FIN == TcpFlags.FIN then
      let connection := { connectionInfo with rxAlive := false }
      if !connection.txAlive then
        (true, { self with tcp := self.tcp.erase key })
      else
        (true, { self with tcp := self.tcp.insert key connection })
    else
      (true, self)
  | none =>
    if !isWhitelisted whitelist peer source then
      (false, self)
    else if flags &&& TCP_FIRST_PKT_MASK == TcpFlags.SYN then
      (true, { self with tcp := self.tcp.insert key ⟨true, true, true⟩ })
    else
      (true, self)

/-- `handle_inbound_tcp`. -/
def Firewall.handleInboundTcp (self : Firewall) (whitelist : Whitelist) (peer : PublicKey)
    (ip : Ipv4Packet) (buffer : List UInt8) : Option (Bool × Firewall) := do
  let payload ← sliceFrom buffer ip.headerLenBytes
  match TcpPacket.new payload with
  | none => pure (false, self)
  | some tcpPacket =>
    pure (self.inboundTcpEntry whitelist peer ip.getSource
      ⟨ip.getSource.bits, tcpPacket.getSource, ip.getDestination.bits, tcpPacket.getDestination⟩
      tcpPacket.getFlags)

/-- `handle_inbound_icmp`: request types are accepted only from whitelisted sources. The shift
is `u32`'s, which wraps its amount at 32 as release builds do. -/
def handleInboundIcmp (whitelist : Whitelist) (peer : PublicKey) (ip : Ipv4Packet)
    (buffer : List UInt8) : Option Bool := do
  let payload ← sliceFrom buffer ip.headerLenBytes
  match IcmpPacket.new payload with
  | none => pure false
  | some icmpPacket =>
    if ((1 : UInt32) <<< icmpPacket.getIcmpType.toUInt32) &&& ICMP_BLOCK_TYPES_MASK != 0 &&
        !isWhitelisted whitelist peer ip.getSource then
      pure false
    else
      pure true

/-- `process_inbound_packet`: whitelisted peers are accepted outright; valid IPv4 packets are
judged by their protocol's handler; anything else is dropped. -/
def Firewall.processInboundPacket (self : Firewall) (publicKey : PublicKey)
    (buffer : List UInt8) : Option (Bool × Firewall) :=
  match Ipv4Packet.new buffer with
  | none => some (false, self)
  | some ip =>
    let whitelist := self.whitelist
    if publicKey ∈ whitelist.peerWhitelist then
      some (true, self)
    else if !checkValid ip then
      some (false, self)
    else if ip.getNextLevelProtocol = IpNextHeaderProtocols.udp then
      self.handleInboundUdp whitelist publicKey ip buffer
    else if ip.getNextLevelProtocol = IpNextHeaderProtocols.tcp then
      self.handleInboundTcp whitelist publicKey ip buffer
    else if ip.getNextLevelProtocol = IpNextHeaderProtocols.icmp then
      (handleInboundIcmp whitelist publicKey ip buffer).map fun verdict => (verdict, self)
    else
      some (false, self)

/-! The whitelist operations. -/

def Firewall.clearNetworkWhitelist (self : Firewall) : Firewall :=
  { self with whitelist := { self.whitelist with networkWhitelist := ∅ } }

def Firewall.addToNetworkWhitelist (self : Firewall) (ipNet : IpNetwork) : Firewall :=
  { self with whitelist :=
      { self.whitelist with networkWhitelist := insert ipNet self.whitelist.networkWhitelist } }

def Firewall.removeFromNetworkWhitelist (self : Firewall) (ipNet : IpNetwork) : Firewall :=
  { self with whitelist :=
      { self.whitelist with networkWhitelist := self.whitelist.networkWhitelist.erase ipNet } }

def Firewall.clearPeerWhitelist (self : Firewall) : Firewall :=
  { self with whitelist := { self.whitelist with peerWhitelist := ∅ } }

def Firewall.addToPeerWhitelist (self : Firewall) (peer : PublicKey) : Firewall :=
  { self with whitelist :=
      { self.whitelist with peerWhitelist := insert peer self.whitelist.peerWhitelist } }

def Firewall.removeFromPeerWhitelist (self : Firewall) (peer : PublicKey) : Firewall :=
  { self with whitelist :=
      { self.whitelist with peerWhitelist := self.whitelist.peerWhitelist.erase peer } }

end Libtelio.TelioFirewall
