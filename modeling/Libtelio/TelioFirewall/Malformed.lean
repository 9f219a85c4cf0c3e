/- Which packets make the firewall's handlers panic.

   `check_valid` asks for an IPv4 header of at least five words, but nothing bounds the header
   length by the buffer. Each protocol handler slices the buffer at `ihl * 4`, so a valid-looking
   UDP or TCP packet (and, inbound, an ICMP one) whose header length points past its end panics
   before `UdpPacket::new` or its like can refuse the rest. These are exactly the inputs on which
   `process_outbound_packet` and `process_inbound_packet` give no verdict. -/

import Libtelio.TelioFirewall.Firewall

set_option autoImplicit false
set_option relaxedAutoImplicit false

namespace Libtelio.TelioFirewall

open Libtelio.Net Libtelio.TelioCrypto

theorem sliceFrom_eq_none {buffer : List UInt8} {n : Nat} :
    sliceFrom buffer n = none ↔ buffer.length < n := by
  unfold sliceFrom
  split <;> simp_all

/-- A handler that answers whatever payload it gets fails only where its slice does. -/
theorem sliceFrom_bind_eq_none {α : Type} {buffer : List UInt8} {n : Nat}
    {f : List UInt8 → Option α} (answers : ∀ payload, (f payload).isSome) :
    (sliceFrom buffer n >>= f) = none ↔ buffer.length < n := by
  rw [← sliceFrom_eq_none]
  cases sliced : sliceFrom buffer n with
  | none => simp
  | some payload => simpa [Option.isSome_iff_ne_none] using answers payload

section Handlers

variable (self : Firewall) (whitelist : Whitelist) (peer : PublicKey) (ip : Ipv4Packet)
  (buffer : List UInt8)

theorem handleOutboundUdp_eq_none :
    self.handleOutboundUdp ip buffer = none ↔ buffer.length < ip.headerLenBytes :=
  sliceFrom_bind_eq_none fun payload => by cases UdpPacket.new payload <;> rfl

theorem handleOutboundTcp_eq_none :
    self.handleOutboundTcp ip buffer = none ↔ buffer.length < ip.headerLenBytes :=
  sliceFrom_bind_eq_none fun payload => by cases TcpPacket.new payload <;> rfl

theorem handleInboundUdp_eq_none :
    self.handleInboundUdp whitelist peer ip buffer = none ↔ buffer.length < ip.headerLenBytes :=
  sliceFrom_bind_eq_none fun payload => by cases UdpPacket.new payload <;> rfl

theorem handleInboundTcp_eq_none :
    self.handleInboundTcp whitelist peer ip buffer = none ↔ buffer.length < ip.headerLenBytes :=
  sliceFrom_bind_eq_none fun payload => by cases TcpPacket.new payload <;> rfl

theorem handleInboundIcmp_eq_none :
    handleInboundIcmp whitelist peer ip buffer = none ↔ buffer.length < ip.headerLenBytes := by
  apply sliceFrom_bind_eq_none
  intro payload
  cases IcmpPacket.new payload with
  | none => rfl
  | some icmpPacket => dsimp only; split <;> rfl

end Handlers

/-- An outbound packet panics exactly when it reaches the UDP or TCP handler, being a valid
IPv4 packet of no whitelisted peer, with a header longer than the buffer. -/
theorem processOutboundPacket_eq_none (self : Firewall) (publicKey : PublicKey)
    (buffer : List UInt8) :
    self.processOutboundPacket publicKey buffer = none ↔
      ∃ ip, Ipv4Packet.new buffer = some ip ∧ publicKey ∉ self.whitelist.peerWhitelist ∧
        checkValid ip = true ∧
        (ip.getNextLevelProtocol = IpNextHeaderProtocols.udp ∨
          ip.getNextLevelProtocol = IpNextHeaderProtocols.tcp) ∧
        buffer.length < ip.headerLenBytes := by
  unfold Firewall.processOutboundPacket
  split
  · rename_i parsed
    simp [parsed]
  · rename_i ip parsed
    simp only [parsed, Option.some.injEq, exists_eq_left']
    split_ifs with whitelisted invalid udp tcp
    · simp [whitelisted]
    · simp_all
    all_goals have valid : checkValid ip = true := by simpa using invalid
    · simp [Option.map_eq_none_iff, handleOutboundUdp_eq_none, whitelisted, udp, valid]
    · simp [Option.map_eq_none_iff, handleOutboundTcp_eq_none, whitelisted, tcp, valid]
    · simp_all

/-- An inbound packet panics exactly when it reaches the UDP, TCP or ICMP handler with a header
longer than the buffer. -/
theorem processInboundPacket_eq_none (self : Firewall) (publicKey : PublicKey)
    (buffer : List UInt8) :
    self.processInboundPacket publicKey buffer = none ↔
      ∃ ip, Ipv4Packet.new buffer = some ip ∧ publicKey ∉ self.whitelist.peerWhitelist ∧
        checkValid ip = true ∧
        (ip.getNextLevelProtocol = IpNextHeaderProtocols.udp ∨
          ip.getNextLevelProtocol = IpNextHeaderProtocols.tcp ∨
          ip.getNextLevelProtocol = IpNextHeaderProtocols.icmp) ∧
        buffer.length < ip.headerLenBytes := by
  unfold Firewall.processInboundPacket
  split
  · rename_i parsed
    simp [parsed]
  · rename_i ip parsed
    simp only [parsed, Option.some.injEq, exists_eq_left']
    split_ifs with whitelisted invalid udp tcp icmp
    · simp [whitelisted]
    · simp_all
    all_goals have valid : checkValid ip = true := by simpa using invalid
    · simp [handleInboundUdp_eq_none, whitelisted, udp, valid]
    · simp [handleInboundTcp_eq_none, whitelisted, tcp, valid]
    · simp [Option.map_eq_none_iff, handleInboundIcmp_eq_none, whitelisted, icmp, valid]
    · simp_all

/-- A 20-byte UDP packet whose header length nibble says fifteen words. -/
def longHeaderUdp : List UInt8 :=
  [0x4f, 0, 0, 20, 0, 0, 0, 0, 64, 17, 0, 0, 100, 64, 0, 1, 100, 64, 0, 2]

theorem long_header_slice_panics :
    Firewall.new.processInboundPacket (PublicKey.filled 1) longHeaderUdp = none ∧
      Firewall.new.processOutboundPacket (PublicKey.filled 1) longHeaderUdp = none := by
  decide

end Libtelio.TelioFirewall
