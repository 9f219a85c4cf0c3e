/- Connection tracking over whole runs of the firewall.

   A run interleaves the two packet paths, the whitelist edits and the cache's own evictions
   (capacity and expiry of `lru_time_cache`, as explicit `evict` steps). The main result,
   `inbound_accept_needs_pinhole`, says that an inbound UDP or TCP packet from a peer and a
   source outside the whitelist is accepted only through an entry opened from this side: one
   an outbound packet of the mirrored tuple inserted and that nothing removed since; and that
   a remote-initiated entry exists only since an inbound packet from a source whitelisted at
   that moment.

   The proof says once, per cache, what a step can do to it (`udp_step`, `tcp_step`); the four
   provenance statements are each a short case analysis on that, lifted to runs by the
   `Since` rule of `Lib.Run`. -/

import Libtelio.Lib.Run
import Libtelio.TelioFirewall.Firewall

set_option autoImplicit false
set_option relaxedAutoImplicit false

namespace Libtelio.TelioFirewall

open Libtelio.Net Libtelio.TelioCrypto Libtelio.Lib.Run

/-! Packet views: the tuple the firewall reads off a valid IPv4 UDP or TCP packet. -/

/-- The tuple `(src, sport, dst, dport)` of a buffer the firewall parses as an IPv4 UDP
packet: valid IPv4, protocol UDP, a UDP header after the IP header. -/
def udpTuple (buffer : List UInt8) : Option IpConnWithPort :=
  match Ipv4Packet.new buffer with
  | none => none
  | some ip =>
    if checkValid ip = true ∧ ip.getNextLevelProtocol = IpNextHeaderProtocols.udp then
      match sliceFrom buffer ip.headerLenBytes with
      | none => none
      | some payload =>
        (UdpPacket.new payload).map fun udpPacket =>
          ⟨ip.getSource.bits, udpPacket.getSource, ip.getDestination.bits,
            udpPacket.getDestination⟩
    else none

/-- The tuple and the flags of a buffer the firewall parses as an IPv4 TCP segment. -/
def tcpSegment (buffer : List UInt8) : Option (IpConnWithPort × UInt16) :=
  match Ipv4Packet.new buffer with
  | none => none
  | some ip =>
    if checkValid ip = true ∧ ip.getNextLevelProtocol = IpNextHeaderProtocols.tcp then
      match sliceFrom buffer ip.headerLenBytes with
      | none => none
      | some payload =>
        (TcpPacket.new payload).map fun tcpPacket =>
          (⟨ip.getSource.bits, tcpPacket.getSource, ip.getDestination.bits,
            tcpPacket.getDestination⟩, tcpPacket.getFlags)
    else none

theorem udpTuple_of_parse {buffer : List UInt8} {ip : Ipv4Packet} {payload : List UInt8}
    {udpPacket : UdpPacket} (parsed : Ipv4Packet.new buffer = some ip) (valid : checkValid ip = true)
    (udp : ip.getNextLevelProtocol = IpNextHeaderProtocols.udp)
    (sliced : sliceFrom buffer ip.headerLenBytes = some payload)
    (header : UdpPacket.new payload = some udpPacket) :
    udpTuple buffer = some ⟨ip.getSource.bits, udpPacket.getSource, ip.getDestination.bits,
      udpPacket.getDestination⟩ := by
  simp [udpTuple, parsed, valid, udp, sliced, header]

theorem tcpSegment_of_parse {buffer : List UInt8} {ip : Ipv4Packet} {payload : List UInt8}
    {tcpPacket : TcpPacket} (parsed : Ipv4Packet.new buffer = some ip) (valid : checkValid ip = true)
    (tcp : ip.getNextLevelProtocol = IpNextHeaderProtocols.tcp)
    (sliced : sliceFrom buffer ip.headerLenBytes = some payload)
    (header : TcpPacket.new payload = some tcpPacket) :
    tcpSegment buffer = some (⟨ip.getSource.bits, tcpPacket.getSource, ip.getDestination.bits,
      tcpPacket.getDestination⟩, tcpPacket.getFlags) := by
  simp [tcpSegment, parsed, valid, tcp, sliced, header]

/-- What `udpTuple` reads: the parse steps of the firewall's UDP handlers. -/
theorem udpTuple_eq_some {buffer : List UInt8} {key : IpConnWithPort}
    (view : udpTuple buffer = some key) :
    ∃ ip payload udpPacket, Ipv4Packet.new buffer = some ip ∧ checkValid ip = true ∧
      ip.getNextLevelProtocol = IpNextHeaderProtocols.udp ∧
      sliceFrom buffer ip.headerLenBytes = some payload ∧ UdpPacket.new payload = some udpPacket ∧
      key = ⟨ip.getSource.bits, udpPacket.getSource, ip.getDestination.bits,
        udpPacket.getDestination⟩ := by
  unfold udpTuple at view
  split at view
  · cases view
  · rename_i ip parsed
    split at view
    · rename_i checks
      split at view
      · cases view
      · rename_i payload sliced
        obtain ⟨udpPacket, header, rfl⟩ := Option.map_eq_some_iff.mp view
        exact ⟨ip, payload, udpPacket, parsed, checks.1, checks.2, sliced, header, rfl⟩
    · cases view

/-- What `tcpSegment` reads: the parse steps of the firewall's TCP handlers. -/
theorem tcpSegment_eq_some {buffer : List UInt8} {key : IpConnWithPort} {flags : UInt16}
    (view : tcpSegment buffer = some (key, flags)) :
    ∃ ip payload tcpPacket, Ipv4Packet.new buffer = some ip ∧ checkValid ip = true ∧
      ip.getNextLevelProtocol = IpNextHeaderProtocols.tcp ∧
      sliceFrom buffer ip.headerLenBytes = some payload ∧ TcpPacket.new payload = some tcpPacket ∧
      key = ⟨ip.getSource.bits, tcpPacket.getSource, ip.getDestination.bits,
        tcpPacket.getDestination⟩ ∧ flags = tcpPacket.getFlags := by
  unfold tcpSegment at view
  split at view
  · cases view
  · rename_i ip parsed
    split at view
    · rename_i checks
      split at view
      · cases view
      · rename_i payload sliced
        obtain ⟨tcpPacket, header, same⟩ := Option.map_eq_some_iff.mp view
        cases same
        exact ⟨ip, payload, tcpPacket, parsed, checks.1, checks.2, sliced, header, rfl, rfl⟩
    · cases view

/-! The packet paths, as the conntrack updates they perform. -/

section Paths

variable {t t' : Firewall} {publicKey : PublicKey} {buffer : List UInt8} {verdict : Bool}

/-- An outbound packet leaves the state as it was, or is a UDP packet or a TCP segment from a
peer outside the peer whitelist whose mirrored tuple gets the conntrack update. -/
theorem processOutboundPacket_cases (h : t.processOutboundPacket publicKey buffer = some (verdict, t')) :
    t' = t ∨
    (publicKey ∉ t.whitelist.peerWhitelist ∧
      ∃ key, udpTuple buffer = some key ∧ t' = t.outboundUdpEntry key.mirror) ∨
    (publicKey ∉ t.whitelist.peerWhitelist ∧
      ∃ key flags, tcpSegment buffer = some (key, flags) ∧
        t' = t.outboundTcpEntry key.mirror flags) := by
  unfold Firewall.processOutboundPacket at h
  split at h
  · cases h; exact .inl rfl
  · rename_i ip parsed
    split_ifs at h with whitelisted invalid udp tcp
    · cases h; exact .inl rfl
    · cases h; exact .inl rfl
    · -- the UDP handler: its result is the update at the mirrored tuple, or nothing
      obtain ⟨next, handled, same⟩ := Option.map_eq_some_iff.mp h
      cases same
      unfold Firewall.handleOutboundUdp at handled
      cases sliced : sliceFrom buffer ip.headerLenBytes with
      | none => simp [sliced] at handled
      | some payload =>
        cases header : UdpPacket.new payload with
        | none => simp [sliced, header] at handled; exact .inl handled.symm
        | some udpPacket =>
          simp only [sliced, header, bind, Option.bind_some, pure, Option.some.injEq] at handled
          subst handled
          exact .inr (.inl ⟨whitelisted, _, udpTuple_of_parse parsed (by simpa using invalid) udp
            sliced header, rfl⟩)
    · obtain ⟨next, handled, same⟩ := Option.map_eq_some_iff.mp h
      cases same
      unfold Firewall.handleOutboundTcp at handled
      cases sliced : sliceFrom buffer ip.headerLenBytes with
      | none => simp [sliced] at handled
      | some payload =>
        cases header : TcpPacket.new payload with
        | none => simp [sliced, header] at handled; exact .inl handled.symm
        | some tcpPacket =>
          simp only [sliced, header, bind, Option.bind_some, pure, Option.some.injEq] at handled
          subst handled
          exact .inr (.inr ⟨whitelisted, _, _, tcpSegment_of_parse parsed
            (by simpa using invalid) tcp sliced header, rfl⟩)
    · simp at h; exact .inl h.2.symm

/-- An inbound packet leaves the state as it was, or is a UDP packet or a TCP segment whose
own tuple gets the conntrack decision. -/
theorem processInboundPacket_cases (h : t.processInboundPacket publicKey buffer = some (verdict, t')) :
    t' = t ∨
    (∃ key, udpTuple buffer = some key ∧
      (verdict, t') = t.inboundUdpEntry t.whitelist publicKey ⟨key.srcAddr⟩ key) ∨
    (∃ key flags, tcpSegment buffer = some (key, flags) ∧
      (verdict, t') = t.inboundTcpEntry t.whitelist publicKey ⟨key.srcAddr⟩ key flags) := by
  unfold Firewall.processInboundPacket at h
  split at h
  · cases h; exact .inl rfl
  · rename_i ip parsed
    dsimp only at h
    split_ifs at h with whitelisted invalid udp tcp
    · cases h; exact .inl rfl
    · cases h; exact .inl rfl
    · unfold Firewall.handleInboundUdp at h
      cases sliced : sliceFrom buffer ip.headerLenBytes with
      | none => simp [sliced] at h
      | some payload =>
        cases header : UdpPacket.new payload with
        | none => simp [sliced, header] at h; exact .inl h.2.symm
        | some udpPacket =>
          simp only [sliced, header, bind, Option.bind_some, pure, Option.some.injEq] at h
          exact .inr (.inl ⟨_, udpTuple_of_parse parsed (by simpa using invalid) udp sliced header,
            h.symm⟩)
    · unfold Firewall.handleInboundTcp at h
      cases sliced : sliceFrom buffer ip.headerLenBytes with
      | none => simp [sliced] at h
      | some payload =>
        cases header : TcpPacket.new payload with
        | none => simp [sliced, header] at h; exact .inl h.2.symm
        | some tcpPacket =>
          simp only [sliced, header, bind, Option.bind_some, pure, Option.some.injEq] at h
          exact .inr (.inr ⟨_, _, tcpSegment_of_parse parsed (by simpa using invalid) tcp sliced
            header, h.symm⟩)
    · -- ICMP only ever answers; it never touches the caches
      obtain ⟨_, -, same⟩ := Option.map_eq_some_iff.mp h
      cases same
      exact .inl rfl
    · cases h; exact .inl rfl

/-- A UDP packet from a peer outside the peer whitelist is judged by the conntrack decision
for its tuple. -/
theorem processInboundPacket_of_udp {key : IpConnWithPort}
    (outside : publicKey ∉ t.whitelist.peerWhitelist) (view : udpTuple buffer = some key) :
    t.processInboundPacket publicKey buffer =
      some (t.inboundUdpEntry t.whitelist publicKey ⟨key.srcAddr⟩ key) := by
  obtain ⟨ip, payload, udpPacket, parsed, valid, udp, sliced, header, rfl⟩ := udpTuple_eq_some view
  simp [Firewall.processInboundPacket, parsed, outside, valid, udp, Firewall.handleInboundUdp,
    sliced, header]

/-- A TCP segment from a peer outside the peer whitelist is judged by the conntrack decision
for its tuple and flags. -/
theorem processInboundPacket_of_tcp {key : IpConnWithPort} {flags : UInt16}
    (outside : publicKey ∉ t.whitelist.peerWhitelist)
    (view : tcpSegment buffer = some (key, flags)) :
    t.processInboundPacket publicKey buffer =
      some (t.inboundTcpEntry t.whitelist publicKey ⟨key.srcAddr⟩ key flags) := by
  obtain ⟨ip, payload, tcpPacket, parsed, valid, tcp, sliced, header, rfl, rfl⟩ :=
    tcpSegment_eq_some view
  simp [Firewall.processInboundPacket, parsed, outside, valid, tcp, Firewall.handleInboundTcp,
    sliced, header, IpNextHeaderProtocols.udp, IpNextHeaderProtocols.tcp]

end Paths

/-! The conntrack updates, cache by cache: each touches one cache and never the whitelist. -/

section Entries

variable (t : Firewall) (key : IpConnWithPort) (whitelist : Whitelist) (peer : PublicKey)
  (source : Ipv4Addr) (flags : UInt16)

@[simp] theorem outboundUdpEntry_tcp : (t.outboundUdpEntry key).tcp = t.tcp := by
  unfold Firewall.outboundUdpEntry
  split <;> rfl

@[simp] theorem outboundUdpEntry_whitelist : (t.outboundUdpEntry key).whitelist = t.whitelist := by
  unfold Firewall.outboundUdpEntry
  split <;> rfl

@[simp] theorem outboundTcpEntry_udp : (t.outboundTcpEntry key flags).udp = t.udp := by
  unfold Firewall.outboundTcpEntry
  dsimp only
  split_ifs <;> (try split) <;> (try split_ifs) <;> rfl

@[simp] theorem outboundTcpEntry_whitelist :
    (t.outboundTcpEntry key flags).whitelist = t.whitelist := by
  unfold Firewall.outboundTcpEntry
  dsimp only
  split_ifs <;> (try split) <;> (try split_ifs) <;> rfl

@[simp] theorem inboundUdpEntry_tcp : (t.inboundUdpEntry whitelist peer source key).2.tcp = t.tcp := by
  unfold Firewall.inboundUdpEntry
  split <;> split_ifs <;> rfl

@[simp] theorem inboundUdpEntry_whitelist :
    (t.inboundUdpEntry whitelist peer source key).2.whitelist = t.whitelist := by
  unfold Firewall.inboundUdpEntry
  split <;> split_ifs <;> rfl

@[simp] theorem inboundTcpEntry_udp :
    (t.inboundTcpEntry whitelist peer source key flags).2.udp = t.udp := by
  unfold Firewall.inboundTcpEntry
  dsimp only
  split <;> split_ifs <;> rfl

@[simp] theorem inboundTcpEntry_whitelist :
    (t.inboundTcpEntry whitelist peer source key flags).2.whitelist = t.whitelist := by
  unfold Firewall.inboundTcpEntry
  dsimp only
  split <;> split_ifs <;> rfl

/-- An outbound UDP packet opens a pinhole where there was no entry, and otherwise leaves the
UDP cache alone. -/
theorem outboundUdpEntry_udp :
    (t.outboundUdpEntry key).udp = t.udp ∨
    (t.udp.lookup key = none ∧ (t.outboundUdpEntry key).udp = t.udp.insert key ⟨false⟩) := by
  unfold Firewall.outboundUdpEntry
  split
  · rename_i absent
    exact .inr ⟨Option.isNone_iff_eq_none.mp absent, rfl⟩
  · exact .inl rfl

/-- An outbound TCP segment leaves the TCP cache alone, removes the entry, opens a fresh
local pinhole (first SYN only), or closes the local direction of a tracked connection. -/
theorem outboundTcpEntry_tcp :
    (t.outboundTcpEntry key flags).tcp = t.tcp ∨
    (t.outboundTcpEntry key flags).tcp = t.tcp.erase key ∨
    (flags &&& TCP_FIRST_PKT_MASK = TcpFlags.SYN ∧
      (t.outboundTcpEntry key flags).tcp = t.tcp.insert key ⟨true, true, false⟩) ∨
    (∃ connection, t.tcp.lookup key = some connection ∧
      (t.outboundTcpEntry key flags).tcp = t.tcp.insert key { connection with txAlive := false }) := by
  unfold Firewall.outboundTcpEntry
  dsimp only
  split_ifs with syn rst fin
  · exact .inr (.inr (.inl ⟨by simpa using syn, rfl⟩))
  · exact .inr (.inl rfl)
  · split
    · rename_i connection tracked
      split_ifs
      · exact .inr (.inl rfl)
      · exact .inr (.inr (.inr ⟨connection, tracked, rfl⟩))
    · exact .inl rfl
  · exact .inl rfl

/-- An inbound UDP packet leaves the UDP cache alone, drops the entry, or records a
remote-initiated entry for a whitelisted source where there was none. -/
theorem inboundUdpEntry_udp :
    (t.inboundUdpEntry whitelist peer source key).2.udp = t.udp ∨
    (t.inboundUdpEntry whitelist peer source key).2.udp = t.udp.erase key ∨
    (t.udp.lookup key = none ∧ isWhitelisted whitelist peer source = true ∧
      (t.inboundUdpEntry whitelist peer source key).2.udp = t.udp.insert key ⟨true⟩) := by
  unfold Firewall.inboundUdpEntry
  split
  · split_ifs
    · exact .inr (.inl rfl)
    · exact .inl rfl
  · rename_i absent
    split_ifs with blocked
    · exact .inl rfl
    · exact .inr (.inr ⟨absent, by simpa using blocked, rfl⟩)

/-- An inbound TCP segment leaves the TCP cache alone, drops the entry, closes the remote
direction of a tracked connection, or records a remote-initiated entry for a first SYN from a
whitelisted source where there was none. -/
theorem inboundTcpEntry_tcp :
    (t.inboundTcpEntry whitelist peer source key flags).2.tcp = t.tcp ∨
    (t.inboundTcpEntry whitelist peer source key flags).2.tcp = t.tcp.erase key ∨
    (∃ connection, t.tcp.lookup key = some connection ∧
      (t.inboundTcpEntry whitelist peer source key flags).2.tcp =
        t.tcp.insert key { connection with rxAlive := false }) ∨
    (t.tcp.lookup key = none ∧ isWhitelisted whitelist peer source = true ∧
      flags &&& TCP_FIRST_PKT_MASK = TcpFlags.SYN ∧
      (t.inboundTcpEntry whitelist peer source key flags).2.tcp =
        t.tcp.insert key ⟨true, true, true⟩) := by
  unfold Firewall.inboundTcpEntry
  dsimp only
  split
  · rename_i connection tracked
    split_ifs
    · exact .inr (.inl rfl)
    · exact .inr (.inl rfl)
    · exact .inr (.inl rfl)
    · exact .inr (.inr (.inl ⟨connection, tracked, rfl⟩))
    · exact .inl rfl
  · rename_i absent
    split_ifs with blocked syn
    · exact .inl rfl
    · exact .inr (.inr (.inr ⟨absent, by simpa using blocked, by simpa using syn, rfl⟩))
    · exact .inl rfl

/-- An inbound UDP packet from outside the whitelist is accepted only on a local pinhole. -/
theorem inboundUdpEntry_accept (accepted : (t.inboundUdpEntry whitelist peer source key).1 = true)
    (outside : isWhitelisted whitelist peer source = false) :
    t.udp.lookup key = some ⟨false⟩ := by
  unfold Firewall.inboundUdpEntry at accepted
  split at accepted
  · rename_i connectionInfo tracked
    split_ifs at accepted with dropped
    cases connectionInfo with
    | mk remote => cases remote <;> simp_all
  · simp [outside] at accepted

/-- An inbound TCP segment from outside the whitelist is accepted only on a local pinhole. -/
theorem inboundTcpEntry_accept
    (accepted : (t.inboundTcpEntry whitelist peer source key flags).1 = true)
    (outside : isWhitelisted whitelist peer source = false) :
    ∃ connection, t.tcp.lookup key = some connection ∧
      connection.connRemoteInitiated = false := by
  unfold Firewall.inboundTcpEntry at accepted
  split at accepted
  · rename_i connectionInfo tracked
    refine ⟨connectionInfo, tracked, ?_⟩
    by_contra remote
    simp_all
  · simp [outside] at accepted

end Entries

/-! Runs: the operations, and what one step can do to each cache. -/

/-- The operations a run is made of: the two packet paths, the whitelist edits, and the
caches' own eviction or expiry of an entry. -/
inductive Op
  | processOutboundPacket (publicKey : PublicKey) (buffer : List UInt8)
  | processInboundPacket (publicKey : PublicKey) (buffer : List UInt8)
  | addToNetworkWhitelist (ipNet : IpNetwork)
  | removeFromNetworkWhitelist (ipNet : IpNetwork)
  | clearNetworkWhitelist
  | addToPeerWhitelist (peer : PublicKey)
  | removeFromPeerWhitelist (peer : PublicKey)
  | clearPeerWhitelist
  | evictUdp (key : IpConnWithPort)
  | evictTcp (key : IpConnWithPort)

/-- One operation. A packet that makes the source panic leaves the firewall as it was: the
panic happens before any cache is locked. -/
def step (fw : Firewall) : Op → Firewall
  | .processOutboundPacket publicKey buffer =>
    match fw.processOutboundPacket publicKey buffer with
    | some (_, next) => next
    | none => fw
  | .processInboundPacket publicKey buffer =>
    match fw.processInboundPacket publicKey buffer with
    | some (_, next) => next
    | none => fw
  | .addToNetworkWhitelist ipNet => fw.addToNetworkWhitelist ipNet
  | .removeFromNetworkWhitelist ipNet => fw.removeFromNetworkWhitelist ipNet
  | .clearNetworkWhitelist => fw.clearNetworkWhitelist
  | .addToPeerWhitelist peer => fw.addToPeerWhitelist peer
  | .removeFromPeerWhitelist peer => fw.removeFromPeerWhitelist peer
  | .clearPeerWhitelist => fw.clearPeerWhitelist
  | .evictUdp key => { fw with udp := fw.udp.erase key }
  | .evictTcp key => { fw with tcp := fw.tcp.erase key }

/-- Step `a` at `fw` is an outbound UDP packet, to a peer outside the peer whitelist, whose
mirrored tuple is `key`, while `key` has no entry. -/
def OutboundOpensUdp (key : IpConnWithPort) (fw : Firewall) (a : Op) : Prop :=
  ∃ publicKey buffer, a = .processOutboundPacket publicKey buffer ∧
    publicKey ∉ fw.whitelist.peerWhitelist ∧ udpTuple buffer = some key.mirror ∧
    fw.udp.lookup key = none

/-- Step `a` at `fw` is an inbound UDP packet with tuple `key` from a whitelisted peer or
source, while `key` has no entry. -/
def InboundOpensUdp (key : IpConnWithPort) (fw : Firewall) (a : Op) : Prop :=
  ∃ publicKey buffer, a = .processInboundPacket publicKey buffer ∧ udpTuple buffer = some key ∧
    isWhitelisted fw.whitelist publicKey ⟨key.srcAddr⟩ = true ∧ fw.udp.lookup key = none

/-- Step `a` at `fw` is an outbound first SYN (SYN set, ACK clear), to a peer outside the peer
whitelist, whose mirrored tuple is `key`. -/
def OutboundOpensTcp (key : IpConnWithPort) (fw : Firewall) (a : Op) : Prop :=
  ∃ publicKey buffer flags, a = .processOutboundPacket publicKey buffer ∧
    publicKey ∉ fw.whitelist.peerWhitelist ∧ tcpSegment buffer = some (key.mirror, flags) ∧
    flags &&& TCP_FIRST_PKT_MASK = TcpFlags.SYN

/-- Step `a` at `fw` is an inbound first SYN with tuple `key` from a whitelisted peer or
source, while `key` has no entry. -/
def InboundOpensTcp (key : IpConnWithPort) (fw : Firewall) (a : Op) : Prop :=
  ∃ publicKey buffer flags, a = .processInboundPacket publicKey buffer ∧
    tcpSegment buffer = some (key, flags) ∧ flags &&& TCP_FIRST_PKT_MASK = TcpFlags.SYN ∧
    isWhitelisted fw.whitelist publicKey ⟨key.srcAddr⟩ = true ∧ fw.tcp.lookup key = none

/-- Everything one step can do to the UDP cache. -/
theorem udp_step (t : Firewall) (a : Op) :
    (step t a).udp = t.udp ∨ (∃ key, (step t a).udp = t.udp.erase key) ∨
    (∃ key, OutboundOpensUdp key t a ∧ (step t a).udp = t.udp.insert key ⟨false⟩) ∨
    (∃ key, InboundOpensUdp key t a ∧ (step t a).udp = t.udp.insert key ⟨true⟩) := by
  cases a with
  | processOutboundPacket publicKey buffer =>
    simp only [step]
    split
    · rename_i verdict next processed
      rcases processOutboundPacket_cases processed with rfl | ⟨outside, key, view, rfl⟩ |
        ⟨-, key, flags, -, rfl⟩
      · exact .inl rfl
      · rcases outboundUdpEntry_udp t key.mirror with same | ⟨absent, opened⟩
        · exact .inl same
        · exact .inr (.inr (.inl ⟨key.mirror, ⟨publicKey, buffer, rfl, outside, by simpa using view,
            absent⟩, opened⟩))
      · exact .inl (outboundTcpEntry_udp t _ flags)
    · exact .inl rfl
  | processInboundPacket publicKey buffer =>
    simp only [step]
    split
    · rename_i verdict next processed
      rcases processInboundPacket_cases processed with rfl | ⟨key, view, decided⟩ |
        ⟨key, flags, -, decided⟩
      · exact .inl rfl
      · have next_eq : next = (t.inboundUdpEntry t.whitelist publicKey ⟨key.srcAddr⟩ key).2 := by
          rw [← decided]
        rcases inboundUdpEntry_udp t key t.whitelist publicKey ⟨key.srcAddr⟩ with
          same | erased | ⟨absent, allowed, opened⟩
        · exact .inl (next_eq ▸ same)
        · exact .inr (.inl ⟨key, next_eq ▸ erased⟩)
        · exact .inr (.inr (.inr ⟨key, ⟨publicKey, buffer, rfl, view, allowed, absent⟩,
            next_eq ▸ opened⟩))
      · have next_eq : next = (t.inboundTcpEntry t.whitelist publicKey ⟨key.srcAddr⟩ key flags).2 := by
          rw [← decided]
        exact .inl (next_eq ▸ inboundTcpEntry_udp t key t.whitelist publicKey _ flags)
    · exact .inl rfl
  | evictUdp key => exact .inr (.inl ⟨key, rfl⟩)
  | _ => exact .inl rfl

/-- Everything one step can do to the TCP cache. -/
theorem tcp_step (t : Firewall) (a : Op) :
    (step t a).tcp = t.tcp ∨ (∃ key, (step t a).tcp = t.tcp.erase key) ∨
    (∃ key connection txAlive rxAlive, t.tcp.lookup key = some connection ∧
      (step t a).tcp = t.tcp.insert key ⟨txAlive, rxAlive, connection.connRemoteInitiated⟩) ∨
    (∃ key, OutboundOpensTcp key t a ∧ (step t a).tcp = t.tcp.insert key ⟨true, true, false⟩) ∨
    (∃ key, InboundOpensTcp key t a ∧ (step t a).tcp = t.tcp.insert key ⟨true, true, true⟩) := by
  cases a with
  | processOutboundPacket publicKey buffer =>
    simp only [step]
    split
    · rename_i verdict next processed
      rcases processOutboundPacket_cases processed with rfl | ⟨-, key, -, rfl⟩ |
        ⟨outside, key, flags, view, rfl⟩
      · exact .inl rfl
      · exact .inl (outboundUdpEntry_tcp t _)
      · rcases outboundTcpEntry_tcp t key.mirror flags with same | erased | ⟨syn, opened⟩ |
          ⟨connection, tracked, closed⟩
        · exact .inl same
        · exact .inr (.inl ⟨_, erased⟩)
        · exact .inr (.inr (.inr (.inl ⟨key.mirror, ⟨publicKey, buffer, flags, rfl, outside,
            by simpa using view, syn⟩, opened⟩)))
        · exact .inr (.inr (.inl ⟨_, connection, _, _, tracked, closed⟩))
    · exact .inl rfl
  | processInboundPacket publicKey buffer =>
    simp only [step]
    split
    · rename_i verdict next processed
      rcases processInboundPacket_cases processed with rfl | ⟨key, -, decided⟩ |
        ⟨key, flags, view, decided⟩
      · exact .inl rfl
      · have next_eq : next = (t.inboundUdpEntry t.whitelist publicKey ⟨key.srcAddr⟩ key).2 := by
          rw [← decided]
        exact .inl (next_eq ▸ inboundUdpEntry_tcp t key t.whitelist publicKey _)
      · have next_eq : next = (t.inboundTcpEntry t.whitelist publicKey ⟨key.srcAddr⟩ key flags).2 := by
          rw [← decided]
        rcases inboundTcpEntry_tcp t key t.whitelist publicKey ⟨key.srcAddr⟩ flags with
          same | erased | ⟨connection, tracked, closed⟩ | ⟨absent, allowed, syn, opened⟩
        · exact .inl (next_eq ▸ same)
        · exact .inr (.inl ⟨key, next_eq ▸ erased⟩)
        · exact .inr (.inr (.inl ⟨key, connection, _, _, tracked, next_eq ▸ closed⟩))
        · exact .inr (.inr (.inr (.inr ⟨key, ⟨publicKey, buffer, flags, rfl, view, syn, allowed,
            absent⟩, next_eq ▸ opened⟩)))
    · exact .inl rfl
  | evictTcp key => exact .inr (.inl ⟨key, rfl⟩)
  | _ => exact .inl rfl

/-! Provenance of the conntrack entries. -/

/-- The UDP cache holds an entry for `key`, opened by the remote side when `remote`. -/
def UdpEntryOpenedBy (remote : Bool) (key : IpConnWithPort) (fw : Firewall) : Prop :=
  fw.udp.lookup key = some ⟨remote⟩

/-- The TCP cache holds an entry for `key`, opened by the remote side when `remote`. -/
def TcpEntryOpenedBy (remote : Bool) (key : IpConnWithPort) (fw : Firewall) : Prop :=
  ∃ connection, fw.tcp.lookup key = some connection ∧ connection.connRemoteInitiated = remote

private theorem lookup_of_lookup_erase {α β : Type} [DecidableEq α] {m : AList (fun _ : α => β)}
    {key other : α} {value : β} (found : (m.erase other).lookup key = some value) :
    m.lookup key = some value := by
  by_cases same : key = other
  · subst same
    simp at found
  · rwa [AList.lookup_erase_ne same] at found

private theorem lookup_of_lookup_insert {α β : Type} [DecidableEq α] {m : AList (fun _ : α => β)}
    {key other : α} {value inserted : β} (found : (m.insert other inserted).lookup key = some value) :
    (key = other ∧ inserted = value) ∨ m.lookup key = some value := by
  by_cases same : key = other
  · subst same
    exact .inl ⟨rfl, by simpa using found⟩
  · rw [AList.lookup_insert_ne same] at found
    exact .inr found

/-- A UDP entry present after a step was present before, or the step opened it: from this
side for a local entry, from a whitelisted remote for a remote-initiated one. -/
theorem udpEntry_origin (remote : Bool) (key : IpConnWithPort) (t : Firewall) (a : Op)
    (after : UdpEntryOpenedBy remote key (step t a)) :
    UdpEntryOpenedBy remote key t ∨ (remote = false ∧ OutboundOpensUdp key t a) ∨
      (remote = true ∧ InboundOpensUdp key t a) := by
  unfold UdpEntryOpenedBy at after ⊢
  rcases udp_step t a with same | ⟨other, erased⟩ | ⟨other, opens, opened⟩ |
    ⟨other, opens, opened⟩
  · exact .inl (same ▸ after)
  · rw [erased] at after
    exact .inl (lookup_of_lookup_erase after)
  · rw [opened] at after
    rcases lookup_of_lookup_insert after with ⟨rfl, same⟩ | before
    · cases same
      exact .inr (.inl ⟨rfl, opens⟩)
    · exact .inl before
  · rw [opened] at after
    rcases lookup_of_lookup_insert after with ⟨rfl, same⟩ | before
    · cases same
      exact .inr (.inr ⟨rfl, opens⟩)
    · exact .inl before

/-- A TCP entry present after a step was present before with the same originator (the FIN
updates keep it), or the step opened it: by an outbound first SYN for a local entry, by an
inbound first SYN from a whitelisted remote for a remote-initiated one. -/
theorem tcpEntry_origin (remote : Bool) (key : IpConnWithPort) (t : Firewall) (a : Op)
    (after : TcpEntryOpenedBy remote key (step t a)) :
    TcpEntryOpenedBy remote key t ∨ (remote = false ∧ OutboundOpensTcp key t a) ∨
      (remote = true ∧ InboundOpensTcp key t a) := by
  obtain ⟨connection, found, originator⟩ := after
  rcases tcp_step t a with same | ⟨other, erased⟩ |
    ⟨other, previous, txAlive, rxAlive, tracked, updated⟩ | ⟨other, opens, opened⟩ |
    ⟨other, opens, opened⟩
  · exact .inl ⟨connection, same ▸ found, originator⟩
  · rw [erased] at found
    exact .inl ⟨connection, lookup_of_lookup_erase found, originator⟩
  · rw [updated] at found
    rcases lookup_of_lookup_insert found with ⟨rfl, rfl⟩ | before
    · exact .inl ⟨previous, tracked, originator⟩
    · exact .inl ⟨connection, before, originator⟩
  · rw [opened] at found
    rcases lookup_of_lookup_insert found with ⟨rfl, rfl⟩ | before
    · exact .inr (.inl ⟨originator.symm, opens⟩)
    · exact .inl ⟨connection, before, originator⟩
  · rw [opened] at found
    rcases lookup_of_lookup_insert found with ⟨rfl, rfl⟩ | before
    · exact .inr (.inr ⟨originator.symm, opens⟩)
    · exact .inl ⟨connection, before, originator⟩

theorem isWhitelisted_eq_false {whitelist : Whitelist} {peer : PublicKey} {ip : Ipv4Addr}
    (outside : peer ∉ whitelist.peerWhitelist)
    (uncovered : ∀ ipNet ∈ whitelist.networkWhitelist, ipNet.contains (.v4 ip) = false) :
    isWhitelisted whitelist peer ip = false := by
  simpa [isWhitelisted, outside] using uncovered

/-- Firewall stateful-filter safety, over every run from `Firewall::new`. When an inbound UDP
packet or TCP segment from a peer outside the peer whitelist, whose source no whitelisted
network contains, is accepted, the cache holds a locally opened entry for its tuple, and has
held it ever since an outbound packet of the mirrored tuple (for TCP a first SYN) inserted
it. Every remote-initiated entry has been there ever since an inbound packet from a source
whitelisted at that moment inserted it. -/
theorem inbound_accept_needs_pinhole (ops : List Op) :
    let fw := run step Firewall.new ops
    (∀ publicKey buffer key next, fw.processInboundPacket publicKey buffer = some (true, next) →
      udpTuple buffer = some key → publicKey ∉ fw.whitelist.peerWhitelist →
      (∀ ipNet ∈ fw.whitelist.networkWhitelist, ipNet.contains (.v4 ⟨key.srcAddr⟩) = false) →
      UdpEntryOpenedBy false key fw ∧
        Since step (UdpEntryOpenedBy false key) (OutboundOpensUdp key) Firewall.new ops) ∧
    (∀ publicKey buffer key flags next,
      fw.processInboundPacket publicKey buffer = some (true, next) →
      tcpSegment buffer = some (key, flags) → publicKey ∉ fw.whitelist.peerWhitelist →
      (∀ ipNet ∈ fw.whitelist.networkWhitelist, ipNet.contains (.v4 ⟨key.srcAddr⟩) = false) →
      TcpEntryOpenedBy false key fw ∧
        Since step (TcpEntryOpenedBy false key) (OutboundOpensTcp key) Firewall.new ops) ∧
    (∀ key, UdpEntryOpenedBy true key fw →
      Since step (UdpEntryOpenedBy true key) (InboundOpensUdp key) Firewall.new ops) ∧
    (∀ key, TcpEntryOpenedBy true key fw →
      Since step (TcpEntryOpenedBy true key) (InboundOpensTcp key) Firewall.new ops) := by
  intro fw
  -- the four provenance statements, each from its cache's origin lemma
  have localUdp : ∀ key, UdpEntryOpenedBy false key fw →
      Since step (UdpEntryOpenedBy false key) (OutboundOpensUdp key) Firewall.new ops := by
    intro key
    refine since_of_runs (by simp [UdpEntryOpenedBy, Firewall.new]) (fun _ a after => ?_) ops
    rw [run_append_singleton] at after
    rcases udpEntry_origin false key _ a after with before | ⟨-, opens⟩ | ⟨impossible, -⟩
    · exact .inl before
    · exact .inr opens
    · cases impossible
  have localTcp : ∀ key, TcpEntryOpenedBy false key fw →
      Since step (TcpEntryOpenedBy false key) (OutboundOpensTcp key) Firewall.new ops := by
    intro key
    refine since_of_runs (by simp [TcpEntryOpenedBy, Firewall.new]) (fun _ a after => ?_) ops
    rw [run_append_singleton] at after
    rcases tcpEntry_origin false key _ a after with before | ⟨-, opens⟩ | ⟨impossible, -⟩
    · exact .inl before
    · exact .inr opens
    · cases impossible
  refine ⟨?_, ?_, ?_, ?_⟩
  · intro publicKey buffer key next accepted view outside uncovered
    rw [processInboundPacket_of_udp outside view, Option.some.injEq] at accepted
    have pinhole : UdpEntryOpenedBy false key fw :=
      inboundUdpEntry_accept fw key fw.whitelist publicKey _ (by rw [accepted])
        (isWhitelisted_eq_false outside uncovered)
    exact ⟨pinhole, localUdp key pinhole⟩
  · intro publicKey buffer key flags next accepted view outside uncovered
    rw [processInboundPacket_of_tcp outside view, Option.some.injEq] at accepted
    have pinhole : TcpEntryOpenedBy false key fw :=
      inboundTcpEntry_accept fw key fw.whitelist publicKey _ flags (by rw [accepted])
        (isWhitelisted_eq_false outside uncovered)
    exact ⟨pinhole, localTcp key pinhole⟩
  · intro key
    refine since_of_runs (by simp [UdpEntryOpenedBy, Firewall.new]) (fun _ a after => ?_) ops
    rw [run_append_singleton] at after
    rcases udpEntry_origin true key _ a after with before | ⟨impossible, -⟩ | ⟨-, opens⟩
    · exact .inl before
    · cases impossible
    · exact .inr opens
  · intro key
    refine since_of_runs (by simp [TcpEntryOpenedBy, Firewall.new]) (fun _ a after => ?_) ops
    rw [run_append_singleton] at after
    rcases tcpEntry_origin true key _ a after with before | ⟨impossible, -⟩ | ⟨-, opens⟩
    · exact .inl before
    · cases impossible
    · exact .inr opens

/-- A DNS reply `10.0.0.2:53 → 10.0.0.1:1000` after the query `10.0.0.1:1000 → 10.0.0.2:53`
went out, with an empty whitelist: it is accepted, on the pinhole the query opened. -/
theorem udp_reply_traced :
    let fw := run step Firewall.new [.processOutboundPacket (PublicKey.filled 1)
      [0x45, 0, 0, 28, 0, 0, 0x40, 0, 64, 17, 0, 0, 10, 0, 0, 1, 10, 0, 0, 2,
       0x03, 0xe8, 0, 53, 0, 8, 0, 0]]
    UdpEntryOpenedBy false ⟨167772162, 53, 167772161, 1000⟩ fw ∧
      Since step (UdpEntryOpenedBy false ⟨167772162, 53, 167772161, 1000⟩)
        (OutboundOpensUdp ⟨167772162, 53, 167772161, 1000⟩) Firewall.new
        [.processOutboundPacket (PublicKey.filled 1)
          [0x45, 0, 0, 28, 0, 0, 0x40, 0, 64, 17, 0, 0, 10, 0, 0, 1, 10, 0, 0, 2,
           0x03, 0xe8, 0, 53, 0, 8, 0, 0]] :=
  (inbound_accept_needs_pinhole _).1 (PublicKey.filled 1)
    [0x45, 0, 0, 28, 0, 0, 0x40, 0, 64, 17, 0, 0, 10, 0, 0, 2, 10, 0, 0, 1,
     0, 53, 0x03, 0xe8, 0, 8, 0, 0] _ _ rfl (by decide) (by decide) (by decide)

end Libtelio.TelioFirewall
