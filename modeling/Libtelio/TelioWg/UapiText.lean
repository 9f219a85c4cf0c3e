/- The canonical UAPI `get` text of an interface, and what `response_from_str` reads back from it.

   A WireGuard implementation answers `get=1` with the interface's lines (`private_key` and
   `listen_port` when set, then `fwmark`), a block for each peer opened by its `public_key` line,
   then `errno=` and an empty line. Keys are written in hex, numbers in decimal, and a peer's
   handshake time as its seconds and nanoseconds. Here the peers may come in any order, and the
   lines of a block in any order that keeps the `allowed_ip` lines in theirs.

   The text is read back with a listen port of 0 read as none and each handshake time turned
   into the time since it; and so is the text whose final newline is missing. -/

import Libtelio.TelioWg.UapiParse

set_option autoImplicit false
set_option relaxedAutoImplicit false

namespace Libtelio.TelioWg

open Libtelio.Lib Libtelio.Lib.Decimal Libtelio.Lib.Collections Libtelio.Net Libtelio.TelioCrypto

/-- The hex text of a key. -/
def keyHex (bytes : Vector UInt8 keySize) : List Char := (Hex.encode bytes.toList).map Char.ofUInt8

/-- The lines of the interface's own fields. -/
def interfaceLines (i : Interface) : List (List Char) :=
  (i.privateKey.toList.map fun key => keyLine "private_key" (keyHex key.bytes)) ++
    (i.listenPort.toList.map fun port => keyLine "listen_port" (Decimal.display port.toNat)) ++
    [keyLine "fwmark" (Decimal.display i.fwmark.toNat)]

/-- A peer's attribute lines as the implementation writes them; the peer's time field is written
as a handshake time. -/
def Peer.attributes (p : Peer) : List Attribute :=
  p.endpoint.toList.map .endpoint ++
    p.persistentKeepaliveInterval.toList.map .persistentKeepaliveInterval ++
    p.allowedIps.map .allowedIp ++ p.rxBytes.toList.map .rxBytes ++
    p.txBytes.toList.map .txBytes ++
    p.timeSinceLastHandshake.toList.flatMap fun t =>
      [.lastHandshakeTimeSec (UInt64.ofNat (t / 10 ^ 9)),
        .lastHandshakeTimeNsec (UInt64.ofNat (t % 10 ^ 9))]

/-- The texts of a peer's addresses read back, and its handshake time is a `Duration`. -/
def Peer.Readable (parsers : AddrFromStr) (display : AddrDisplay) (p : Peer) : Prop :=
  (∀ a ∈ p.endpoint, (Attribute.endpoint a).ReadsBack parsers display) ∧
    (∀ ip ∈ p.allowedIps, (Attribute.allowedIp ip).ReadsBack parsers display) ∧
    (∀ t ∈ p.timeSinceLastHandshake, t < durationEnd)

/-- A block's lines are the peer's attribute lines in an order that keeps the allowed IPs in
theirs. -/
def BlockOrder (b : Peer × List Attribute) : Prop :=
  b.2.Perm b.1.attributes ∧ b.2.filterMap Attribute.allowedIp? = b.1.allowedIps

/-- The block of a peer with its attribute lines in the order `attrs`. -/
def peerBlock (display : AddrDisplay) (p : Peer) (attrs : List Attribute) : List (List Char) :=
  keyLine "public_key" (keyHex p.publicKey.bytes) :: attrs.map (Attribute.line display)

/-- The lines of the response: the blocks in the order given, `errno` and the empty line. -/
def responseLines (display : AddrDisplay) (i : Interface) (e : Int32)
    (blocks : List (Peer × List Attribute)) : List (List Char) :=
  interfaceLines i ++ blocks.flatMap (fun b => peerBlock display b.1 b.2) ++
    [keyLine "errno" (signedDisplay e.toInt), []]

/-- The peer read back: its time field is the time since the handshake written. -/
def Peer.read (unixTime : Option Duration) (p : Peer) : Peer :=
  { p with
    timeSinceLastHandshake := Peer.calculateTimeSinceLastHandshake unixTime p.timeSinceLastHandshake }

/-! ### Keys and lines -/

private theorem hex_ascii : ∀ c ∈ Hex.HEX_CHARS_LOWER, c.toNat < 128 :=
  fun c mem => of_decide_eq_true (List.all_eq_true.mp
    (by decide : Hex.HEX_CHARS_LOWER.all (fun c => decide (c.toNat < 128)) = true) c mem)

theorem asBytes_keyHex (bytes : Vector UInt8 keySize) :
    asBytes (keyHex bytes) = Hex.encode bytes.toList :=
  asBytes_map_ofUInt8 fun _ mem => hex_ascii _ (Hex.mem_encode mem)

theorem parseSecretKey_keyHex (key : SecretKey) : parseSecretKey (keyHex key.bytes) = some key := by
  rw [parseSecretKey, asBytes_keyHex, (SecretKey.fromStr_display key).2.2.2]

theorem parsePublicKey_keyHex (key : PublicKey) : parsePublicKey (keyHex key.bytes) = some key := by
  rw [parsePublicKey, asBytes_keyHex, (PublicKey.fromStr_display key).2.2.2]

private theorem newline_not_mem_keyLine {key : String} (noNewline : '\n' ∉ key.toList)
    {val : List Char} (value : '\n' ∉ val) : '\n' ∉ keyLine key val := by
  simp only [keyLine, List.mem_append, List.mem_cons, noNewline, false_or]
  rintro (same | mem)
  · exact absurd same (by simp)
  · exact value mem

private theorem newline_not_mem_keyHex (bytes : Vector UInt8 keySize) : '\n' ∉ keyHex bytes := by
  have digits : ∀ c ∈ Hex.HEX_CHARS_LOWER, Char.ofUInt8 c ≠ '\n' :=
    fun c mem => of_decide_eq_true (List.all_eq_true.mp
      (by decide : Hex.HEX_CHARS_LOWER.all (fun c => decide (Char.ofUInt8 c ≠ '\n')) = true) c mem)
  simp only [keyHex, List.mem_map, not_exists, not_and]
  exact fun c mem => digits c (Hex.mem_encode mem)

private theorem newline_not_mem_display (n : Nat) : '\n' ∉ Decimal.display n := fun mem =>
  absurd (Decimal.display_isDigit n _ mem) (by decide)

private theorem newline_not_mem_signedDisplay (v : Int) : '\n' ∉ signedDisplay v := by
  unfold signedDisplay
  split
  · simp only [List.mem_cons]
    rintro (same | mem)
    · exact absurd same (by simp)
    · exact newline_not_mem_display _ mem
  · exact newline_not_mem_display _

theorem Peer.readsBack_of_mem_attributes {parsers : AddrFromStr} {display : AddrDisplay}
    {p : Peer} (readable : p.Readable parsers display) :
    ∀ a ∈ p.attributes, a.ReadsBack parsers display := by
  intro a mem
  simp only [Peer.attributes, List.mem_append, List.mem_map, Option.mem_toList,
    List.mem_flatMap] at mem
  obtain ⟨endpoint, allowedIps, -⟩ := readable
  rcases mem with (((((⟨e, found, rfl⟩ | ⟨_, -, rfl⟩) | ⟨ip, mem, rfl⟩) | ⟨_, -, rfl⟩) |
    ⟨_, -, rfl⟩) | ⟨_, -, mem⟩)
  · exact endpoint e found
  · trivial
  · exact allowedIps ip mem
  · trivial
  · trivial
  · simp only [List.mem_cons, List.not_mem_nil, or_false] at mem
    rcases mem with rfl | rfl <;> trivial

theorem newline_not_mem_responseLines {parsers : AddrFromStr} {display : AddrDisplay}
    {i : Interface} {e : Int32} {blocks : List (Peer × List Attribute)}
    (orders : ∀ b ∈ blocks, BlockOrder b) (readable : ∀ b ∈ blocks, b.1.Readable parsers display) :
    ∀ l ∈ responseLines display i e blocks, '\n' ∉ l := by
  intro l mem
  simp only [responseLines, interfaceLines, peerBlock, List.mem_append, List.mem_map,
    Option.mem_toList, List.mem_flatMap, List.mem_cons, List.not_mem_nil, or_false] at mem
  rcases mem with ((((⟨key, -, rfl⟩ | ⟨port, -, rfl⟩) | rfl) | ⟨b, block, rfl | ⟨a, attr, rfl⟩⟩) |
    rfl | rfl)
  · exact newline_not_mem_keyLine (by simp) (newline_not_mem_keyHex _)
  · exact newline_not_mem_keyLine (by simp) (newline_not_mem_display _)
  · exact newline_not_mem_keyLine (by simp) (newline_not_mem_display _)
  · exact newline_not_mem_keyLine (by simp) (newline_not_mem_keyHex _)
  · exact Attribute.newline_not_mem_line (Peer.readsBack_of_mem_attributes (readable b block) a
      ((orders b block).1.mem_iff.mp attr))
  · exact newline_not_mem_keyLine (by simp) (newline_not_mem_signedDisplay _)
  · simp

/-! ### What each part of the text does to the reader -/

section Run

variable (parsers : AddrFromStr) (unixTime : Option Duration) (display : AddrDisplay)

/-- What the main loop holds after the interface's lines. -/
def interfaceReading (i : Interface) : Reading :=
  ⟨{ i with listenPort := i.listenPort.filter (0 < ·), peers := ∅ }, true, 0⟩

/-- The interface's lines set its fields, a listen port of 0 leaving none. -/
theorem foldlM_feed_interfaceLines (i : Interface) :
    ((interfaceLines i).map (· ++ ['\n'])).foldlM (ReadState.feed parsers unixTime)
        (.device Reading.init) = some (.device (interfaceReading i)) := by
  rcases i with ⟨privateKey, _ | port, fwmark, peers⟩
  · cases privateKey <;>
      simp [interfaceLines, feed_device_keyLine, deviceCommand, parseSecretKey_keyHex,
        fromStrU32_display, Reading.init, Interface.empty, interfaceReading]
  · by_cases positive : 0 < port <;> cases privateKey <;>
      simp [interfaceLines, feed_device_keyLine, deviceCommand, parseSecretKey_keyHex,
        fromStrU16_display, fromStrU32_display, Reading.init, Interface.empty, positive,
        Option.filter_some, interfaceReading]

/-- The reading the main loop holds once `parse_peer` has handed back its peer. -/
def ReadState.flush : ReadState → Option Reading
  | .device r => some r
  | .peer r p => some (r.insertPeer unixTime p)
  | .done _ => none

theorem feed_publicKey {s : ReadState} {r : Reading} (flush : s.flush unixTime = some r)
    (inited : r.inited = true) (key : PublicKey) :
    s.feed parsers unixTime (keyLine "public_key" (keyHex key.bytes) ++ ['\n']) =
      some (.peer r (PeerReading.new key)) := by
  cases s with
  | device r' =>
    obtain rfl : r' = r := Option.some_inj.mp flush
    rw [feed_device_keyLine parsers unixTime r' (by simp)]
    simp [deviceCommand, parsePublicKey_keyHex, ← inited]
  | peer r' p =>
    obtain rfl : r'.insertPeer unixTime p = r := Option.some_inj.mp flush
    rw [feed_peer_keyLine parsers unixTime r' p (by simp)]
    simp [peerCommand, parsePublicKey_keyHex]
  | done _ => cases flush

theorem feed_errno {s : ReadState} {r : Reading} (flush : s.flush unixTime = some r) (e : Int32) :
    s.feed parsers unixTime (keyLine "errno" (signedDisplay e.toInt) ++ ['\n']) =
      some (.device { r with errno := e }) := by
  cases s with
  | device r' =>
    obtain rfl : r' = r := Option.some_inj.mp flush
    rw [feed_device_keyLine parsers unixTime r' (by simp)]
    simp [deviceCommand, fromStrI32_display]
  | peer r' p =>
    obtain rfl : r'.insertPeer unixTime p = r := Option.some_inj.mp flush
    rw [feed_peer_keyLine parsers unixTime r' p (by simp)]
    simp [peerCommand, fromStrI32_display]
  | done _ => cases flush

end Run

/-! ### The attribute lines of a peer -/

section Attributes

variable (p : Peer)

theorem Peer.endpoints_attributes : p.attributes.filterMap Attribute.endpoint? = p.endpoint.toList := by
  cases time : p.timeSinceLastHandshake <;>
    simp [Peer.attributes, time, List.filterMap_append, List.filterMap_map, Function.comp_def,
      Attribute.endpoint?]

theorem Peer.keepalives_attributes :
    p.attributes.filterMap Attribute.persistentKeepaliveInterval? =
      p.persistentKeepaliveInterval.toList := by
  cases time : p.timeSinceLastHandshake <;>
    simp [Peer.attributes, time, List.filterMap_append, List.filterMap_map, Function.comp_def,
      Attribute.persistentKeepaliveInterval?]

theorem Peer.allowedIps_attributes : p.attributes.filterMap Attribute.allowedIp? = p.allowedIps := by
  cases time : p.timeSinceLastHandshake <;>
    simp [Peer.attributes, time, List.filterMap_append, List.filterMap_map, Function.comp_def,
      Attribute.allowedIp?]

theorem Peer.rxBytes_attributes : p.attributes.filterMap Attribute.rxBytes? = p.rxBytes.toList := by
  cases time : p.timeSinceLastHandshake <;>
    simp [Peer.attributes, time, List.filterMap_append, List.filterMap_map, Function.comp_def,
      Attribute.rxBytes?]

theorem Peer.txBytes_attributes : p.attributes.filterMap Attribute.txBytes? = p.txBytes.toList := by
  cases time : p.timeSinceLastHandshake <;>
    simp [Peer.attributes, time, List.filterMap_append, List.filterMap_map, Function.comp_def,
      Attribute.txBytes?]

theorem Peer.durations_attributes :
    p.attributes.filterMap Attribute.duration? = p.timeSinceLastHandshake.toList.flatMap fun t =>
      [Duration.fromSecs (UInt64.ofNat (t / 10 ^ 9)), Duration.fromNanos (UInt64.ofNat (t % 10 ^ 9))] := by
  cases time : p.timeSinceLastHandshake <;>
    simp [Peer.attributes, time, List.filterMap_append, List.filterMap_map, Function.comp_def,
      Attribute.duration?]

/-- The seconds and nanoseconds written for a `Duration` add up to it. -/
theorem Duration.fromSecs_add_fromNanos {t : Duration} (bound : t < durationEnd) :
    Duration.fromSecs (UInt64.ofNat (t / 10 ^ 9)) + Duration.fromNanos (UInt64.ofNat (t % 10 ^ 9)) =
      t := by
  have secs : t / 10 ^ 9 < UInt64.size := by
    unfold durationEnd at bound
    exact Nat.div_lt_of_lt_mul (by rw [Nat.mul_comm]; exact bound)
  have nanos : t % 10 ^ 9 < UInt64.size :=
    Nat.lt_trans (Nat.mod_lt t (by norm_num)) (by norm_num)
  rw [Duration.fromSecs, Duration.fromNanos, UInt64.toNat_ofNat_of_lt' secs,
    UInt64.toNat_ofNat_of_lt' nanos]
  exact Nat.div_add_mod t (10 ^ 9)

theorem durationEnd_pos : 0 < durationEnd := by
  unfold durationEnd
  norm_num

private theorem length_toList_le {α : Type} (o : Option α) : o.toList.length ≤ 1 := by
  cases o <;> simp

private theorem getLast?_toList_or {α : Type} (o : Option α) : o.toList.getLast?.or none = o := by
  cases o <;> rfl

theorem Peer.setOnce_attributes : Attribute.SetOnce p.attributes := by
  refine ⟨?_, ?_, ?_, ?_⟩
  · rw [p.endpoints_attributes]; exact length_toList_le _
  · rw [p.keepalives_attributes]; exact length_toList_le _
  · rw [p.rxBytes_attributes]; exact length_toList_le _
  · rw [p.txBytes_attributes]; exact length_toList_le _

end Attributes

/-- The attribute lines of a peer, in an order that keeps the allowed IPs in theirs, leave the
peer's fields and its handshake time. -/
theorem foldl_apply_attributes {b : Peer × List Attribute} (order : BlockOrder b)
    (time : ∀ t ∈ b.1.timeSinceLastHandshake, t < durationEnd) :
    b.2.foldl (fun p a => a.apply p) (PeerReading.new b.1.publicKey) =
      ⟨{ b.1 with timeSinceLastHandshake := none }, b.1.timeSinceLastHandshake⟩ := by
  obtain ⟨perm, allowed⟩ := order
  rw [foldl_apply_perm perm (allowed.trans b.1.allowedIps_attributes.symm) b.1.setOnce_attributes,
    foldl_apply_eq, b.1.endpoints_attributes, b.1.keepalives_attributes, b.1.allowedIps_attributes,
    b.1.rxBytes_attributes, b.1.txBytes_attributes, b.1.durations_attributes]
  simp only [PeerReading.new, Peer.new, getLast?_toList_or, List.nil_append]
  cases handshake : b.1.timeSinceLastHandshake with
  | none => rfl
  | some t =>
    -- the seconds and nanoseconds written add up to the time, which fits in a `Duration`
    have sum := Duration.fromSecs_add_fromNanos (time t handshake)
    simpa using sum

section Run

variable (parsers : AddrFromStr) (unixTime : Option Duration) (display : AddrDisplay)

/-- A peer's block: its `public_key` line hands back the peer before, and its attribute lines
leave the peer. -/
theorem foldlM_feed_peerBlock {s : ReadState} {r : Reading} (flush : s.flush unixTime = some r)
    (inited : r.inited = true) {b : Peer × List Attribute} (order : BlockOrder b)
    (readable : b.1.Readable parsers display) :
    ((peerBlock display b.1 b.2).map (· ++ ['\n'])).foldlM (ReadState.feed parsers unixTime) s =
      some (.peer r ⟨{ b.1 with timeSinceLastHandshake := none }, b.1.timeSinceLastHandshake⟩) := by
  have reads : ∀ a ∈ b.2, a.ReadsBack parsers display := fun a mem =>
    Peer.readsBack_of_mem_attributes readable a (order.1.mem_iff.mp mem)
  -- the times of the block are the peer's seconds and nanoseconds, so their sum is its time
  have bound : (PeerReading.new b.1.publicKey).lastHandshakeTime.getD 0 +
      (b.2.filterMap Attribute.duration?).sum < durationEnd := by
    rw [(order.1.filterMap Attribute.duration?).sum_eq, b.1.durations_attributes]
    simp only [PeerReading.new, Option.getD_none, Nat.zero_add]
    cases handshake : b.1.timeSinceLastHandshake with
    | none => simp only [Option.toList_none, List.flatMap_nil, List.sum_nil]; exact durationEnd_pos
    | some t =>
      simp only [Option.toList_some, List.flatMap_cons, List.flatMap_nil, List.append_nil,
        List.sum_cons, List.sum_nil, Nat.add_zero]
      rw [Duration.fromSecs_add_fromNanos (readable.2.2 t handshake)]
      exact readable.2.2 t handshake
  rw [peerBlock, List.map_cons, List.foldlM_cons, feed_publicKey parsers unixTime flush inited]
  simp only [bind, Option.bind_some, List.map_map]
  have lines := foldlM_feed_attributes parsers unixTime display r b.2 _ reads bound
  rw [foldl_apply_attributes order readable.2.2] at lines
  exact lines

/-- The peers' blocks in the order given: each peer is handed back to the main loop, which inserts
it read, when the next `public_key` line or the `errno` line comes. -/
theorem foldlM_feed_blocks (blocks : List (Peer × List Attribute)) {s : ReadState} {r : Reading}
    (flush : s.flush unixTime = some r) (inited : r.inited = true)
    (orders : ∀ b ∈ blocks, BlockOrder b) (readable : ∀ b ∈ blocks, b.1.Readable parsers display) :
    ∃ s', ((blocks.flatMap fun b => peerBlock display b.1 b.2).map (· ++ ['\n'])).foldlM
        (ReadState.feed parsers unixTime) s = some s' ∧
      s'.flush unixTime = some { r with interface := { r.interface with
        peers := blocks.foldl (fun m b => m.insert b.1.publicKey (b.1.read unixTime))
          r.interface.peers } } := by
  induction blocks generalizing s r with
  | nil => exact ⟨s, rfl, flush⟩
  | cons b rest ih =>
    have block := foldlM_feed_peerBlock parsers unixTime display flush inited
      (orders b List.mem_cons_self) (readable b List.mem_cons_self)
    obtain ⟨s', run, flush'⟩ := ih
      (s := .peer r ⟨{ b.1 with timeSinceLastHandshake := none }, b.1.timeSinceLastHandshake⟩)
      (r := { r with interface := { r.interface with
        peers := r.interface.peers.insert b.1.publicKey (b.1.read unixTime) } }) rfl inited
      (fun b' mem => orders b' (List.mem_cons_of_mem b mem))
      (fun b' mem => readable b' (List.mem_cons_of_mem b mem))
    refine ⟨s', ?_, flush'⟩
    rw [List.flatMap_cons, List.map_append, List.foldlM_append, block]
    exact run

/-- `response_from_str` reads the canonical text of an interface back: the errno, the interface's
fields with a listen port of 0 read as none, and each peer under its key with the time since its
handshake; whatever the order of the peers, and of the lines of each block as long as the allowed
IPs keep theirs. The text without its final newline is read the same. -/
theorem responseFromStr_responseLines (i : Interface) (e : Int32)
    (blocks : List (Peer × List Attribute))
    (walk : IsWalk (blocks.map fun b => (b.1.publicKey, b.1)) i.peers)
    (orders : ∀ b ∈ blocks, BlockOrder b) (readable : ∀ b ∈ blocks, b.1.Readable parsers display) :
    ∃ j, responseFromStr parsers unixTime (linesText (responseLines display i e blocks)) =
        some ⟨e, some j⟩ ∧
      responseFromStr parsers unixTime (linesText (responseLines display i e blocks)).dropLast =
        some ⟨e, some j⟩ ∧
      j.privateKey = i.privateKey ∧ j.listenPort = i.listenPort.filter (0 < ·) ∧
      j.fwmark = i.fwmark ∧ ∀ k, j.peers.lookup k = (i.peers.lookup k).map (Peer.read unixTime) := by
  obtain ⟨s, run, flush⟩ := foldlM_feed_blocks parsers unixTime display blocks
    (s := .device (interfaceReading i)) rfl rfl orders readable
  -- the text up to the errno line, and what the main loop holds after it
  let body := interfaceLines i ++ blocks.flatMap (fun b => peerBlock display b.1 b.2) ++
    [keyLine "errno" (signedDisplay e.toInt)]
  have lines : responseLines display i e blocks = body ++ [[]] := by
    simp [responseLines, body]
  have noNewline := newline_not_mem_responseLines (e := e) (i := i) orders readable
  have bodyNoNewline : ∀ l ∈ body, '\n' ∉ l := fun l mem =>
    noNewline l (by rw [lines]; exact List.mem_append_left _ mem)
  have readBody : (body.map (· ++ ['\n'])).foldlM (ReadState.feed parsers unixTime)
      (.device Reading.init) = some (.device { interfaceReading i with
        interface := { (interfaceReading i).interface with
          peers := blocks.foldl (fun m b => m.insert b.1.publicKey (b.1.read unixTime)) ∅ }
        errno := e }) := by
    rw [List.map_append, List.foldlM_append, List.map_append, List.foldlM_append,
      foldlM_feed_interfaceLines parsers unixTime i]
    simp only [bind, Option.bind_some, run, List.map_cons, List.map_nil, List.foldlM_cons,
      feed_errno parsers unixTime flush e, List.foldlM_nil]
    rfl
  refine ⟨{ (interfaceReading i).interface with
      peers := blocks.foldl (fun m b => m.insert b.1.publicKey (b.1.read unixTime)) ∅ },
    ?_, ?_, rfl, rfl, rfl, ?_⟩
  · rw [lines, responseFromStr, readLines_linesText (by rw [← lines]; exact noNewline),
      responseFromRead, List.map_append, List.foldlM_append, readBody]
    rfl
  · rw [lines, linesText, List.flatMap_append, List.flatMap_singleton, List.nil_append,
      List.dropLast_concat, responseFromStr, ← linesText, readLines_linesText bodyNoNewline,
      responseFromRead, readBody]
    rfl
  · intro k
    have collected := lookup_fromIter_of_isWalk walk (Peer.read unixTime) k
    rw [fromIter, List.map_map, List.foldl_map] at collected
    exact collected

end Run

/-! ### A sample interface -/

/-- A peer at 10.0.0.1:51820 allowing 10.0.0.0/8, whose handshake was 5 s and 3 ns after the
epoch. -/
def samplePeer : Peer :=
  ⟨PublicKey.filled 1, some sampleAddrs.socketAddr, some 25, [sampleAddrs.ipNetwork], some 7, none,
    some 5000000003⟩

/-- The peer's lines with the allowed IP first and the nanoseconds before the seconds. -/
def sampleOrder : List Attribute :=
  [.allowedIp sampleAddrs.ipNetwork, .lastHandshakeTimeNsec 3, .endpoint sampleAddrs.socketAddr,
    .persistentKeepaliveInterval 25, .lastHandshakeTimeSec 5, .rxBytes 7]

def sampleInterface : Interface := ⟨none, some 0, 3, (∅ : Peers).insert samplePeer.publicKey samplePeer⟩

theorem responseFromStr_sampleInterface :
    IsWalk ([(samplePeer, sampleOrder)].map fun b => (b.1.publicKey, b.1)) sampleInterface.peers ∧
      (∀ b ∈ [(samplePeer, sampleOrder)], BlockOrder b) ∧
      (∀ b ∈ [(samplePeer, sampleOrder)], b.1.Readable sampleAddrs.parsers sampleAddrs.display) ∧
      ∃ j, responseFromStr sampleAddrs.parsers (some 10000000000)
          (linesText (responseLines sampleAddrs.display sampleInterface 0
            [(samplePeer, sampleOrder)])) = some ⟨0, some j⟩ ∧
        responseFromStr sampleAddrs.parsers (some 10000000000)
          (linesText (responseLines sampleAddrs.display sampleInterface 0
            [(samplePeer, sampleOrder)])).dropLast = some ⟨0, some j⟩ ∧
        j.privateKey = sampleInterface.privateKey ∧
        j.listenPort = sampleInterface.listenPort.filter (0 < ·) ∧
        j.fwmark = sampleInterface.fwmark ∧
        ∀ k, j.peers.lookup k =
          (sampleInterface.peers.lookup k).map (Peer.read (some 10000000000)) :=
  have walk : IsWalk ([(samplePeer, sampleOrder)].map fun b => (b.1.publicKey, b.1))
      sampleInterface.peers := List.Perm.refl _
  have orders : ∀ b ∈ [(samplePeer, sampleOrder)], BlockOrder b := by
    simp only [List.mem_singleton, forall_eq]
    exact ⟨by decide, by decide⟩
  have readable : ∀ b ∈ [(samplePeer, sampleOrder)],
      b.1.Readable sampleAddrs.parsers sampleAddrs.display := by
    simp only [List.mem_singleton, forall_eq]
    refine ⟨fun a found => ?_, fun ip mem => ?_, fun t found => ?_⟩
    · cases found
      exact sampleAddrs.readsBack sampleAddrs_noNewline (fun _ same => (Option.some.inj same).symm)
        (fun _ none => nomatch none)
    · simp only [samplePeer, List.mem_singleton] at mem
      subst mem
      exact sampleAddrs.readsBack sampleAddrs_noNewline (fun _ none => nomatch none)
        (fun _ same => (Option.some.inj same).symm)
    · cases found
      unfold durationEnd
      norm_num
  ⟨walk, orders, readable, responseFromStr_responseLines sampleAddrs.parsers (some 10000000000)
    sampleAddrs.display sampleInterface 0 [(samplePeer, sampleOrder)] walk orders readable⟩

/-- The text of an interface without peers whose errno line is the last line and lacks its
newline. `String::pop` takes the errno's last digit in place of the newline: `errno=10` is read
as 1 and `errno=0` panics on the empty number. With the final empty line, or with only that
line's newline missing, the errno is read as written. -/
theorem errno_line_without_newline_loses_digit (parsers : AddrFromStr) (unixTime : Option Duration)
    (display : AddrDisplay) :
    linesText (responseLines display Interface.empty 10 []) = "fwmark=0\nerrno=10\n\n".toList ∧
      responseFromStr parsers unixTime "fwmark=0\nerrno=10\n\n".toList =
        some ⟨10, some Interface.empty⟩ ∧
      responseFromStr parsers unixTime "fwmark=0\nerrno=10\n".toList =
        some ⟨10, some Interface.empty⟩ ∧
      responseFromStr parsers unixTime "fwmark=0\nerrno=10".toList = some ⟨1, some Interface.empty⟩ ∧
      responseFromStr parsers unixTime "fwmark=0\nerrno=0".toList = none :=
  ⟨rfl, rfl, rfl, rfl, rfl⟩

end Libtelio.TelioWg
