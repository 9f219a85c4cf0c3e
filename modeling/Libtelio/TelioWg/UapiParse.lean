/- The UAPI `get` response as `telio-wg` reads it: `response_from_str`, `response_from_read` and
   `parse_peer`.

   One `BufReader` is read line by line. The main loop sets the interface's fields; a
   `public_key` line hands the reader to `parse_peer`, which reads the peer's lines until the next
   `public_key` (whose key it hands back), an `errno` or an empty line. Each line loses its last
   character to `String::pop`, which is the newline only when the line has one.

   The two loops are one step function over the lines read: a line goes to the main loop
   (`ReadState.device`) or to the loop of `parse_peer` (`ReadState.peer`), and the main loop's
   `return` ends the reading (`ReadState.done`). A `&str` is valid UTF-8, so `read_line` never
   fails on it. `SocketAddr::from_str` and `IpNetwork::from_str` are the parameters
   `AddrFromStr`, and `get_unix_time()` is the parameter `unixTime`. -/

import Mathlib.Algebra.BigOperators.Group.List.Basic
import Mathlib.Data.List.Induction
import Libtelio.Lib.Collections
import Libtelio.Lib.Decimal
import Libtelio.TelioCrypto.KeyText
import Libtelio.TelioWg.Uapi

set_option autoImplicit false
set_option relaxedAutoImplicit false

namespace Libtelio.TelioWg

open Libtelio.Lib Libtelio.Lib.Decimal Libtelio.Net Libtelio.TelioCrypto

/-! ### Durations and the handshake time -/

/-- One past `Duration::MAX` (`u64::MAX` seconds and 999 999 999 nanoseconds). -/
def durationEnd : Duration := 2 ^ 64 * 10 ^ 9

def Duration.fromSecs (secs : UInt64) : Duration := 10 ^ 9 * secs.toNat

def Duration.fromNanos (nanos : UInt64) : Duration := nanos.toNat

/-- `Duration + Duration`, which panics on passing `Duration::MAX`. -/
def Duration.add (a b : Duration) : Option Duration :=
  if a + b < durationEnd then some (a + b) else none

def Duration.checkedSub (a b : Duration) : Option Duration :=
  if b ≤ a then some (a - b) else none

/-- `Peer::calculate_time_since_last_handshake`: a handshake time of zero means none, and a
handshake ahead of the clock gives none. `unixTime` is `get_unix_time()`, `none` for its
`SystemTimeError`. -/
def Peer.calculateTimeSinceLastHandshake (unixTime lht : Option Duration) : Option Duration :=
  let lht := lht.bind fun handshakeTime => if handshakeTime = 0 then none else some handshakeTime
  lht.bind fun handshakeTime => unixTime.bind fun now => Duration.checkedSub now handshakeTime

/-! ### Lines, keys and values -/

/-- The lines that successive calls of `BufRead::read_line` append to an empty buffer, each
with the newline that ends it; the last has none when the text does not end in one. Past the
end `read_line` returns `Ok(0)` and appends nothing. -/
def readLines : List Char → List (List Char)
  | [] => []
  | c :: cs =>
    if c = '\n' then ['\n'] :: readLines cs
    else
      match readLines cs with
      | [] => [[c]]
      | line :: rest => (c :: line) :: rest

/-- `cmd.splitn(2, '=')` and `assert_eq!(parsed.len(), 2)`: the text up to the first `=` and
the rest; `none` is the failed assertion. -/
def splitKeyValue : List Char → Option (List Char × List Char)
  | [] => none
  | c :: cs =>
    if c = '=' then some ([], cs) else (splitKeyValue cs).map fun kv => (c :: kv.1, kv.2)

/-- `str::as_bytes`: the UTF-8 encoding of a text. -/
def asBytes (s : List Char) : List UInt8 := s.flatMap String.utf8EncodeChar

theorem toNat_ofUInt8 (b : UInt8) : (Char.ofUInt8 b).toNat = b.toNat :=
  show b.toUInt32.toNat = b.toNat by simp

theorem utf8EncodeChar_ofUInt8 {b : UInt8} (ascii : b.toNat < 128) :
    String.utf8EncodeChar (Char.ofUInt8 b) = [b] := by
  have small : b.toNat ≤ 0x7f := by omega
  simp [String.utf8EncodeChar, toNat_ofUInt8, small]

/-- ASCII characters are their bytes. -/
theorem asBytes_map_ofUInt8 {bytes : List UInt8} (ascii : ∀ b ∈ bytes, b.toNat < 128) :
    asBytes (bytes.map Char.ofUInt8) = bytes := by
  induction bytes with
  | nil => rfl
  | cons b rest ih =>
    rw [List.map_cons, asBytes, List.flatMap_cons, utf8EncodeChar_ofUInt8 (ascii b List.mem_cons_self)]
    rw [← asBytes, ih fun c mem => ascii c (List.mem_cons_of_mem b mem)]
    rfl

/-- `val.parse::<SecretKey>().unwrap()`; `none` is the panic of `unwrap` or of the decoder. -/
def parseSecretKey (val : List Char) : Option SecretKey :=
  match SecretKey.fromStr (asBytes val) with
  | some (.ok key) => some key
  | _ => none

/-- `val.parse::<PublicKey>().unwrap()`. -/
def parsePublicKey (val : List Char) : Option PublicKey :=
  match PublicKey.fromStr (asBytes val) with
  | some (.ok key) => some key
  | _ => none

/-- `FromStr` of the address types, from `std` and the `ipnetwork` crate; `none` is an `Err`,
which the parser unwraps. -/
structure AddrFromStr where
  socketAddr : List Char → Option SocketAddr
  ipNetwork : List Char → Option IpNetwork

/-! ### The reader -/

/-- `Peer { public_key, ..Peer::default() }`. -/
def Peer.new (publicKey : PublicKey) : Peer := ⟨publicKey, none, none, [], none, none, none⟩

/-- The locals of `response_from_read` that live across lines. -/
structure Reading where
  interface : Interface
  inited : Bool
  errno : Int32

/-- `Interface::default()`, `inited = false` and `errno = 0`. -/
def Reading.init : Reading := ⟨Interface.empty, false, 0⟩

/-- The `Response` that the main loop returns. -/
def Reading.response (r : Reading) : Response :=
  ⟨r.errno, if r.inited then some r.interface else none⟩

/-- The locals of `parse_peer`: the peer and `last_handshake_time`. -/
structure PeerReading where
  peer : Peer
  lastHandshakeTime : Option Duration

def PeerReading.new (publicKey : PublicKey) : PeerReading := ⟨Peer.new publicKey, none⟩

/-- The end of `parse_peer`, which sets the peer's `time_since_last_handshake`, and the main
loop's `interface.peers.insert(peer.public_key, peer)`. -/
def Reading.insertPeer (unixTime : Option Duration) (r : Reading) (p : PeerReading) : Reading :=
  let peer := { p.peer with
    timeSinceLastHandshake := Peer.calculateTimeSinceLastHandshake unixTime p.lastHandshakeTime }
  { r with interface := { r.interface with peers := r.interface.peers.insert peer.publicKey peer } }

/-- Where the reading stands between two lines. -/
inductive ReadState
  /-- In the main loop of `response_from_read`. -/
  | device (r : Reading)
  /-- In the loop of `parse_peer`, called from the main loop holding `r`. -/
  | peer (r : Reading) (p : PeerReading)
  /-- The main loop has returned. -/
  | done (resp : Response)

/-- The `match key` of the main loop. -/
def deviceCommand (r : Reading) (key : String) (val : List Char) : Option ReadState :=
  match key with
  | "private_key" => do
    let key ← parseSecretKey val
    pure (.device { r with
      inited := true
      interface := { r.interface with privateKey := some key } })
  | "listen_port" => do
    let port ← fromStrU16 val
    pure (.device { r with
      inited := true
      interface := if 0 < port then { r.interface with listenPort := some port } else r.interface })
  | "fwmark" => do
    let fwmark ← fromStrU32 val
    pure (.device { r with inited := true, interface := { r.interface with fwmark } })
  | "public_key" => do
    let publicKey ← parsePublicKey val
    pure (.peer { r with inited := true } (PeerReading.new publicKey))
  | "errno" => do
    let errno ← fromStrI32 val
    pure (.device { r with errno })
  | _ => pure (.device r)

/-- `*timestamp += d`, or `last_handshake_time = Some(d)` when there is none yet. -/
def addHandshakeTime (lht : Option Duration) (d : Duration) : Option (Option Duration) :=
  match lht with
  | some timestamp => (Duration.add timestamp d).map some
  | none => some (some d)

/-- The `match key` of `parse_peer`, with what the main loop does with the peer it hands back. -/
def peerCommand (parsers : AddrFromStr) (unixTime : Option Duration) (r : Reading)
    (p : PeerReading) (key : String) (val : List Char) : Option ReadState :=
  match key with
  | "endpoint" => do
    let endpoint ← parsers.socketAddr val
    pure (.peer r { p with peer := { p.peer with endpoint := some endpoint } })
  | "persistent_keepalive_interval" => do
    let interval ← fromStrU32 val
    pure (.peer r { p with peer := { p.peer with persistentKeepaliveInterval := some interval } })
  | "allowed_ip" => do
    let ip ← parsers.ipNetwork val
    pure (.peer r { p with peer := { p.peer with allowedIps := p.peer.allowedIps ++ [ip] } })
  | "rx_bytes" => do
    let bytes ← fromStrU64 val
    pure (.peer r { p with peer := { p.peer with rxBytes := some bytes } })
  | "tx_bytes" => do
    let bytes ← fromStrU64 val
    pure (.peer r { p with peer := { p.peer with txBytes := some bytes } })
  | "last_handshake_time_nsec" => do
    let nsec ← fromStrU64 val
    let lht ← addHandshakeTime p.lastHandshakeTime (Duration.fromNanos nsec)
    pure (.peer r { p with lastHandshakeTime := lht })
  | "last_handshake_time_sec" => do
    let sec ← fromStrU64 val
    let lht ← addHandshakeTime p.lastHandshakeTime (Duration.fromSecs sec)
    pure (.peer r { p with lastHandshakeTime := lht })
  | "public_key" => do
    -- `break (peer, Some(next), None)`: the main loop inserts the peer and reads the next
    let next ← parsePublicKey val
    pure (.peer (r.insertPeer unixTime p) (PeerReading.new next))
  | "errno" => do
    -- `break (peer, None, Some(errno))`: the main loop inserts the peer, sets `errno` and
    -- goes on reading lines itself
    let errno ← fromStrI32 val
    pure (.device { r.insertPeer unixTime p with errno })
  | _ => pure (.peer r p)

/-- A line of the main loop, its newline popped: an empty one returns the response. -/
def deviceLine (r : Reading) (cmd : List Char) : Option ReadState :=
  if cmd.isEmpty then some (.done r.response)
  else do
    let (key, val) ← splitKeyValue cmd
    deviceCommand r (String.ofList key) val

/-- A line of `parse_peer`, its newline popped: an empty one ends the peer, and the main loop
goes on reading. -/
def peerLine (parsers : AddrFromStr) (unixTime : Option Duration) (r : Reading) (p : PeerReading)
    (cmd : List Char) : Option ReadState :=
  if cmd.isEmpty then some (.device (r.insertPeer unixTime p))
  else do
    let (key, val) ← splitKeyValue cmd
    peerCommand parsers unixTime r p (String.ofList key) val

/-- One line read, `cmd.pop()` and what the loop that reads it does; `none` is a panic. -/
def ReadState.feed (parsers : AddrFromStr) (unixTime : Option Duration) :
    ReadState → List Char → Option ReadState
  | .device r, line => deviceLine r line.dropLast
  | .peer r p, line => peerLine parsers unixTime r p line.dropLast
  | .done resp, _ => some (.done resp)

/-- The end of the text: `read_line` returns `Ok(0)` and the buffer stays empty, so `parse_peer`
breaks and the main loop returns. -/
def ReadState.finish (unixTime : Option Duration) : ReadState → Response
  | .device r => r.response
  | .peer r p => (r.insertPeer unixTime p).response
  | .done resp => resp

/-- `response_from_read` over the lines of its reader. -/
def responseFromRead (parsers : AddrFromStr) (unixTime : Option Duration)
    (lines : List (List Char)) : Option Response :=
  (lines.foldlM (ReadState.feed parsers unixTime) (.device Reading.init)).map
    (ReadState.finish unixTime)

/-- `response_from_str`. -/
def responseFromStr (parsers : AddrFromStr) (unixTime : Option Duration) (string : List Char) :
    Option Response :=
  responseFromRead parsers unixTime (readLines string)

/-! ### Lines -/

/-- The text of `lines`, each ended by a newline. -/
def linesText (lines : List (List Char)) : List Char := lines.flatMap (· ++ ['\n'])

/-- A line `key=value`. -/
def keyLine (key : String) (val : List Char) : List Char := key.toList ++ '=' :: val

theorem readLines_append_newline {line : List Char} (noNewline : '\n' ∉ line) (rest : List Char) :
    readLines (line ++ '\n' :: rest) = (line ++ ['\n']) :: readLines rest := by
  induction line with
  | nil => simp [readLines]
  | cons c cs ih =>
    have first : c ≠ '\n' := fun same => noNewline (same ▸ List.mem_cons_self)
    rw [List.cons_append, readLines, if_neg first,
      ih fun mem => noNewline (List.mem_cons_of_mem c mem)]
    rfl

/-- Each line of a text of lines is read back with its newline. -/
theorem readLines_linesText {lines : List (List Char)} (noNewline : ∀ l ∈ lines, '\n' ∉ l) :
    readLines (linesText lines) = lines.map (· ++ ['\n']) := by
  induction lines with
  | nil => rfl
  | cons l ls ih =>
    rw [linesText, List.flatMap_cons, List.append_assoc, List.singleton_append,
      readLines_append_newline (noNewline l List.mem_cons_self)]
    rw [List.map_cons, ← ih fun l' mem => noNewline l' (List.mem_cons_of_mem l mem)]
    rfl

theorem splitKeyValue_append {key : List Char} (noEq : '=' ∉ key) (val : List Char) :
    splitKeyValue (key ++ '=' :: val) = some (key, val) := by
  induction key with
  | nil => simp [splitKeyValue]
  | cons c cs ih =>
    have first : c ≠ '=' := fun same => noEq (same ▸ List.mem_cons_self)
    rw [List.cons_append, splitKeyValue, if_neg first,
      ih fun mem => noEq (List.mem_cons_of_mem c mem)]
    rfl

section Feed

variable (parsers : AddrFromStr) (unixTime : Option Duration)

theorem feed_device_keyLine (r : Reading) {key : String} (noEq : '=' ∉ key.toList)
    (val : List Char) :
    (ReadState.device r).feed parsers unixTime (keyLine key val ++ ['\n']) =
      deviceCommand r key val := by
  rw [ReadState.feed, List.dropLast_concat, deviceLine, if_neg (by simp [keyLine]), keyLine,
    splitKeyValue_append noEq]
  simp

theorem feed_peer_keyLine (r : Reading) (p : PeerReading) {key : String}
    (noEq : '=' ∉ key.toList) (val : List Char) :
    (ReadState.peer r p).feed parsers unixTime (keyLine key val ++ ['\n']) =
      peerCommand parsers unixTime r p key val := by
  rw [ReadState.feed, List.dropLast_concat, peerLine, if_neg (by simp [keyLine]), keyLine,
    splitKeyValue_append noEq]
  simp

end Feed

/-! ### The lines of a peer

A peer's block is read as the sequence of its attribute lines: each sets a field, the last one
of a field counting, except that `allowed_ip` lines append and the two handshake lines add up. -/

/-- An attribute line of a peer, by the value it carries. -/
inductive Attribute
  | endpoint (a : SocketAddr)
  | persistentKeepaliveInterval (n : UInt32)
  | allowedIp (ip : IpNetwork)
  | rxBytes (n : UInt64)
  | txBytes (n : UInt64)
  | lastHandshakeTimeSec (n : UInt64)
  | lastHandshakeTimeNsec (n : UInt64)
  deriving DecidableEq

/-- `Display` of the address types. -/
structure AddrDisplay where
  socketAddr : SocketAddr → List Char
  ipNetwork : IpNetwork → List Char

namespace Attribute

def key : Attribute → String
  | .endpoint _ => "endpoint"
  | .persistentKeepaliveInterval _ => "persistent_keepalive_interval"
  | .allowedIp _ => "allowed_ip"
  | .rxBytes _ => "rx_bytes"
  | .txBytes _ => "tx_bytes"
  | .lastHandshakeTimeSec _ => "last_handshake_time_sec"
  | .lastHandshakeTimeNsec _ => "last_handshake_time_nsec"

/-- The `Display` text of the value. -/
def value (display : AddrDisplay) : Attribute → List Char
  | .endpoint a => display.socketAddr a
  | .persistentKeepaliveInterval n => Decimal.display n.toNat
  | .allowedIp ip => display.ipNetwork ip
  | .rxBytes n => Decimal.display n.toNat
  | .txBytes n => Decimal.display n.toNat
  | .lastHandshakeTimeSec n => Decimal.display n.toNat
  | .lastHandshakeTimeNsec n => Decimal.display n.toNat

def line (display : AddrDisplay) (a : Attribute) : List Char := keyLine a.key (a.value display)

/-- The text of an address reads back as the address and holds no newline, as `Display` and
`FromStr` of `std` and `ipnetwork` promise; the text of a number always does. -/
def ReadsBack (parsers : AddrFromStr) (display : AddrDisplay) : Attribute → Prop
  | .endpoint a => parsers.socketAddr (display.socketAddr a) = some a ∧ '\n' ∉ display.socketAddr a
  | .allowedIp ip =>
    parsers.ipNetwork (display.ipNetwork ip) = some ip ∧ '\n' ∉ display.ipNetwork ip
  | _ => True

def endpoint? : Attribute → Option SocketAddr
  | .endpoint a => some a
  | _ => none

def persistentKeepaliveInterval? : Attribute → Option UInt32
  | .persistentKeepaliveInterval n => some n
  | _ => none

def allowedIp? : Attribute → Option IpNetwork
  | .allowedIp ip => some ip
  | _ => none

def rxBytes? : Attribute → Option UInt64
  | .rxBytes n => some n
  | _ => none

def txBytes? : Attribute → Option UInt64
  | .txBytes n => some n
  | _ => none

/-- The time a handshake line adds to `last_handshake_time`. -/
def duration? : Attribute → Option Duration
  | .lastHandshakeTimeSec n => some (Duration.fromSecs n)
  | .lastHandshakeTimeNsec n => some (Duration.fromNanos n)
  | _ => none

/-- What the line does to the peer `parse_peer` holds, the handshake time not overflowing. -/
def apply (a : Attribute) (p : PeerReading) : PeerReading :=
  match a with
  | .endpoint e => { p with peer := { p.peer with endpoint := some e } }
  | .persistentKeepaliveInterval n =>
    { p with peer := { p.peer with persistentKeepaliveInterval := some n } }
  | .allowedIp ip => { p with peer := { p.peer with allowedIps := p.peer.allowedIps ++ [ip] } }
  | .rxBytes n => { p with peer := { p.peer with rxBytes := some n } }
  | .txBytes n => { p with peer := { p.peer with txBytes := some n } }
  | .lastHandshakeTimeSec n =>
    { p with lastHandshakeTime := some (p.lastHandshakeTime.getD 0 + Duration.fromSecs n) }
  | .lastHandshakeTimeNsec n =>
    { p with lastHandshakeTime := some (p.lastHandshakeTime.getD 0 + Duration.fromNanos n) }

theorem eq_not_mem_key (a : Attribute) : '=' ∉ a.key.toList := by
  cases a <;> simp [key]

theorem newline_not_mem_line {parsers : AddrFromStr} {display : AddrDisplay} {a : Attribute}
    (reads : a.ReadsBack parsers display) : '\n' ∉ a.line display := by
  have number (n : Nat) : '\n' ∉ Decimal.display n := fun mem =>
    absurd (Decimal.display_isDigit n _ mem) (by decide)
  have key : '\n' ∉ a.key.toList := by cases a <;> simp [key]
  simp only [line, keyLine, List.mem_append, List.mem_cons, key, false_or]
  rintro (same | mem)
  · exact absurd same (by simp)
  · cases a <;> first | exact reads.2 mem | exact number _ mem

theorem lastHandshakeTime_apply (a : Attribute) (p : PeerReading) :
    (a.apply p).lastHandshakeTime.getD 0 = p.lastHandshakeTime.getD 0 + a.duration?.getD 0 := by
  cases a <;> rfl

end Attribute

/-- One socket address and one network with the texts `Display` of `std` and `ipnetwork` writes
for them. Its parsers accept exactly those texts, as `FromStr` does on them. -/
structure AddrTable where
  socketAddr : SocketAddr
  socketAddrText : List Char
  ipNetwork : IpNetwork
  ipNetworkText : List Char

namespace AddrTable

def display (t : AddrTable) : AddrDisplay :=
  ⟨fun a => if a = t.socketAddr then t.socketAddrText else [],
    fun ip => if ip = t.ipNetwork then t.ipNetworkText else []⟩

def parsers (t : AddrTable) : AddrFromStr :=
  ⟨fun s => if s = t.socketAddrText then some t.socketAddr else none,
    fun s => if s = t.ipNetworkText then some t.ipNetwork else none⟩

/-- Every line whose address is one of the table's reads back, when the table's texts hold no
newline. -/
theorem readsBack (t : AddrTable) (noNewline : '\n' ∉ t.socketAddrText ∧ '\n' ∉ t.ipNetworkText)
    {a : Attribute} (endpoint : ∀ e ∈ a.endpoint?, e = t.socketAddr)
    (allowedIp : ∀ ip ∈ a.allowedIp?, ip = t.ipNetwork) : a.ReadsBack t.parsers t.display := by
  cases a with
  | endpoint e =>
    obtain rfl := endpoint e rfl
    simp [Attribute.ReadsBack, display, parsers, noNewline.1]
  | allowedIp ip =>
    obtain rfl := allowedIp ip rfl
    simp [Attribute.ReadsBack, display, parsers, noNewline.2]
  | _ => trivial

end AddrTable

/-- 10.0.0.1:51820 and 10.0.0.0/8 with their texts. -/
def sampleAddrs : AddrTable :=
  ⟨⟨.v4 ⟨0x0a000001⟩, 51820⟩, "10.0.0.1:51820".toList, .v4 ⟨⟨0x0a000000⟩, 8, by decide⟩,
    "10.0.0.0/8".toList⟩

theorem sampleAddrs_noNewline :
    '\n' ∉ sampleAddrs.socketAddrText ∧ '\n' ∉ sampleAddrs.ipNetworkText := by
  decide

/-- A block gives each of the endpoint, the keepalive and the two byte counters at most once. -/
def Attribute.SetOnce (attrs : List Attribute) : Prop :=
  (attrs.filterMap Attribute.endpoint?).length ≤ 1 ∧
    (attrs.filterMap Attribute.persistentKeepaliveInterval?).length ≤ 1 ∧
    (attrs.filterMap Attribute.rxBytes?).length ≤ 1 ∧ (attrs.filterMap Attribute.txBytes?).length ≤ 1

/-- What a peer's attribute lines leave in `parse_peer`: the last endpoint, keepalive and byte
counters given (the earlier ones where none is), the allowed IPs appended in the order of their
lines, and the handshake lines summed. -/
theorem foldl_apply_eq (p : PeerReading) (attrs : List Attribute) :
    attrs.foldl (fun p a => a.apply p) p =
      { peer := { p.peer with
          endpoint := (attrs.filterMap Attribute.endpoint?).getLast?.or p.peer.endpoint
          persistentKeepaliveInterval :=
            (attrs.filterMap Attribute.persistentKeepaliveInterval?).getLast?.or
              p.peer.persistentKeepaliveInterval
          allowedIps := p.peer.allowedIps ++ attrs.filterMap Attribute.allowedIp?
          rxBytes := (attrs.filterMap Attribute.rxBytes?).getLast?.or p.peer.rxBytes
          txBytes := (attrs.filterMap Attribute.txBytes?).getLast?.or p.peer.txBytes }
        lastHandshakeTime :=
          if attrs.filterMap Attribute.duration? = [] then p.lastHandshakeTime
          else some (p.lastHandshakeTime.getD 0 + (attrs.filterMap Attribute.duration?).sum) } := by
  induction attrs using List.reverseRecOn with
  | nil => simp
  | append_singleton attrs a ih =>
    rw [List.foldl_append, ih]
    -- a line that is no handshake line leaves the sum of the handshake lines alone
    have timeless (dur : a.duration? = none) :
        (attrs ++ [a]).filterMap Attribute.duration? = attrs.filterMap Attribute.duration? := by
      rw [List.filterMap_append, List.filterMap_cons_none dur, List.filterMap_nil, List.append_nil]
    cases a with
    | lastHandshakeTimeSec n | lastHandshakeTimeNsec n =>
      -- the new time is added to the sum so far, or starts it
      by_cases none : attrs.filterMap Attribute.duration? = []
      · simp [Attribute.apply, Attribute.endpoint?, Attribute.persistentKeepaliveInterval?,
          Attribute.allowedIp?, Attribute.rxBytes?, Attribute.txBytes?, Attribute.duration?,
          List.filterMap_append, none]
      · simp [Attribute.apply, Attribute.endpoint?, Attribute.persistentKeepaliveInterval?,
          Attribute.allowedIp?, Attribute.rxBytes?, Attribute.txBytes?, Attribute.duration?,
          List.filterMap_append, none, Nat.add_assoc]
    | endpoint _ | persistentKeepaliveInterval _ | allowedIp _ | rxBytes _ | txBytes _ =>
      rw [timeless rfl]
      simp [Attribute.apply, Attribute.endpoint?, Attribute.persistentKeepaliveInterval?,
        Attribute.allowedIp?, Attribute.rxBytes?, Attribute.txBytes?, List.filterMap_append]

private theorem eq_of_perm_of_length_le_one {α : Type} {l l' : List α} (perm : l.Perm l')
    (short : l'.length ≤ 1) : l = l' := by
  match l', short with
  | [], _ => exact List.Perm.nil_eq perm.symm ▸ rfl
  | [_], _ => exact List.perm_singleton.mp perm

/-- The lines of a block that sets each field at most once can come in any order that keeps the
allowed IPs in theirs. -/
theorem foldl_apply_perm {attrs attrs' : List Attribute} (perm : attrs.Perm attrs')
    (allowedIps : attrs.filterMap Attribute.allowedIp? = attrs'.filterMap Attribute.allowedIp?)
    (once : Attribute.SetOnce attrs') (p : PeerReading) :
    attrs.foldl (fun p a => a.apply p) p = attrs'.foldl (fun p a => a.apply p) p := by
  obtain ⟨endpoint, keepalive, rx, tx⟩ := once
  have durations := perm.filterMap Attribute.duration?
  have empty : attrs.filterMap Attribute.duration? = [] ↔
      attrs'.filterMap Attribute.duration? = [] := by
    rw [← List.length_eq_zero_iff, ← List.length_eq_zero_iff, durations.length_eq]
  rw [foldl_apply_eq, foldl_apply_eq, allowedIps,
    eq_of_perm_of_length_le_one (perm.filterMap Attribute.endpoint?) endpoint,
    eq_of_perm_of_length_le_one (perm.filterMap Attribute.persistentKeepaliveInterval?) keepalive,
    eq_of_perm_of_length_le_one (perm.filterMap Attribute.rxBytes?) rx,
    eq_of_perm_of_length_le_one (perm.filterMap Attribute.txBytes?) tx, durations.sum_eq]
  simp only [empty]

section Feed

variable (parsers : AddrFromStr) (unixTime : Option Duration) (display : AddrDisplay)

/-- One attribute line in `parse_peer`. -/
theorem feed_attribute (r : Reading) (p : PeerReading) (a : Attribute)
    (reads : a.ReadsBack parsers display)
    (bound : p.lastHandshakeTime.getD 0 + a.duration?.getD 0 < durationEnd) :
    (ReadState.peer r p).feed parsers unixTime (a.line display ++ ['\n']) =
      some (.peer r (a.apply p)) := by
  rw [Attribute.line, feed_peer_keyLine parsers unixTime r p a.eq_not_mem_key]
  cases a with
  | endpoint e => simp [peerCommand, Attribute.key, Attribute.value, Attribute.apply, reads.1]
  | allowedIp ip => simp [peerCommand, Attribute.key, Attribute.value, Attribute.apply, reads.1]
  | persistentKeepaliveInterval n | rxBytes n | txBytes n =>
    simp [peerCommand, Attribute.key, Attribute.value, Attribute.apply, fromStrU32_display,
      fromStrU64_display]
  | lastHandshakeTimeSec n | lastHandshakeTimeNsec n =>
    simp only [Attribute.duration?, Option.getD_some] at bound
    cases lht : p.lastHandshakeTime with
    | none => simp [peerCommand, Attribute.key, Attribute.value, Attribute.apply,
        fromStrU64_display, addHandshakeTime, lht]
    | some t =>
      rw [lht, Option.getD_some] at bound
      simp [peerCommand, Attribute.key, Attribute.value, Attribute.apply, fromStrU64_display,
        addHandshakeTime, lht, Duration.add, bound]

/-- A run of attribute lines in `parse_peer`: every line is applied in turn, as long as the
handshake time stays below `Duration::MAX`. -/
theorem foldlM_feed_attributes (r : Reading) (attrs : List Attribute) (p : PeerReading)
    (reads : ∀ a ∈ attrs, a.ReadsBack parsers display)
    (bound : p.lastHandshakeTime.getD 0 + (attrs.filterMap Attribute.duration?).sum < durationEnd) :
    (attrs.map fun a => a.line display ++ ['\n']).foldlM (ReadState.feed parsers unixTime)
        (.peer r p) = some (.peer r (attrs.foldl (fun p a => a.apply p) p)) := by
  induction attrs generalizing p with
  | nil => rfl
  | cons a rest ih =>
    -- the time the first line adds is part of the sum the bound is about
    have split : (List.filterMap Attribute.duration? (a :: rest)).sum =
        a.duration?.getD 0 + (rest.filterMap Attribute.duration?).sum := by
      cases dur : a.duration? <;> simp [dur]
    have later := Attribute.lastHandshakeTime_apply a p
    have first : p.lastHandshakeTime.getD 0 + a.duration?.getD 0 < durationEnd := by
      dsimp only [Duration] at *
      omega
    have after : (a.apply p).lastHandshakeTime.getD 0 +
        (rest.filterMap Attribute.duration?).sum < durationEnd := by
      dsimp only [Duration] at *
      omega
    rw [List.map_cons, List.foldlM_cons,
      feed_attribute parsers unixTime display r p a (reads a List.mem_cons_self) first]
    exact ih (a.apply p) (fun b mem => reads b (List.mem_cons_of_mem a mem)) after

/-- `parse_peer` over any attribute lines whose values read back: it stays in the peer's loop
with the last endpoint, keepalive and byte counters given, the allowed IPs appended in the order
of their lines and the handshake lines summed, as long as that sum stays a `Duration`. -/
theorem foldlM_feed_attributes_eq (r : Reading) (attrs : List Attribute) (p : PeerReading)
    (reads : ∀ a ∈ attrs, a.ReadsBack parsers display)
    (bound : p.lastHandshakeTime.getD 0 + (attrs.filterMap Attribute.duration?).sum < durationEnd) :
    (attrs.map fun a => a.line display ++ ['\n']).foldlM (ReadState.feed parsers unixTime)
        (.peer r p) =
      some (.peer r
        { peer := { p.peer with
            endpoint := (attrs.filterMap Attribute.endpoint?).getLast?.or p.peer.endpoint
            persistentKeepaliveInterval :=
              (attrs.filterMap Attribute.persistentKeepaliveInterval?).getLast?.or
                p.peer.persistentKeepaliveInterval
            allowedIps := p.peer.allowedIps ++ attrs.filterMap Attribute.allowedIp?
            rxBytes := (attrs.filterMap Attribute.rxBytes?).getLast?.or p.peer.rxBytes
            txBytes := (attrs.filterMap Attribute.txBytes?).getLast?.or p.peer.txBytes }
          lastHandshakeTime :=
            if attrs.filterMap Attribute.duration? = [] then p.lastHandshakeTime
            else some (p.lastHandshakeTime.getD 0 + (attrs.filterMap Attribute.duration?).sum) }) := by
  rw [foldlM_feed_attributes parsers unixTime display r attrs p reads bound, foldl_apply_eq]

/-- Two receive counters, an endpoint, an allowed IP and a handshake given as seconds then
nanoseconds, the addresses written as `Display` writes them: the second counter wins, the address
lines set the peer's endpoint and allowed IP and the times add up. -/
theorem foldlM_feed_attributes_counters :
    let attrs : List Attribute :=
      [.rxBytes 1, .endpoint sampleAddrs.socketAddr, .lastHandshakeTimeSec 2,
        .allowedIp sampleAddrs.ipNetwork, .rxBytes 3, .lastHandshakeTimeNsec 4]
    (∀ a ∈ attrs, a.ReadsBack sampleAddrs.parsers sampleAddrs.display) ∧
      (PeerReading.new (PublicKey.filled 1)).lastHandshakeTime.getD 0 +
          (attrs.filterMap Attribute.duration?).sum < durationEnd ∧
      (attrs.map fun a => a.line sampleAddrs.display ++ ['\n']).foldlM
          (ReadState.feed sampleAddrs.parsers none) (.peer Reading.init
            (PeerReading.new (PublicKey.filled 1))) =
        some (.peer Reading.init ⟨{ Peer.new (PublicKey.filled 1) with
          endpoint := some sampleAddrs.socketAddr, allowedIps := [sampleAddrs.ipNetwork],
          rxBytes := some 3 }, some 2000000004⟩) := by
  intro attrs
  have reads : ∀ a ∈ attrs, a.ReadsBack sampleAddrs.parsers sampleAddrs.display := by
    intro a mem
    refine sampleAddrs.readsBack sampleAddrs_noNewline ?_ ?_ <;>
      simp only [attrs, List.mem_cons, List.not_mem_nil, or_false] at mem <;>
      rcases mem with rfl | rfl | rfl | rfl | rfl | rfl <;> simp [Attribute.endpoint?, Attribute.allowedIp?]
  have bound : (PeerReading.new (PublicKey.filled 1)).lastHandshakeTime.getD 0 +
      (attrs.filterMap Attribute.duration?).sum < durationEnd := by
    simp only [attrs, PeerReading.new, Option.getD_none, Nat.zero_add, durationEnd]
    decide
  refine ⟨reads, bound, ?_⟩
  rw [foldlM_feed_attributes_eq sampleAddrs.parsers none sampleAddrs.display
    Reading.init attrs _ reads bound]
  simp [attrs, PeerReading.new, Peer.new, List.filterMap_cons, Attribute.endpoint?,
    Attribute.persistentKeepaliveInterval?, Attribute.allowedIp?, Attribute.rxBytes?, Attribute.txBytes?,
    Attribute.duration?, Duration.fromSecs, Duration.fromNanos]

end Feed

end Libtelio.TelioWg
