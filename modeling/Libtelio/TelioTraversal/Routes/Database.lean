/- The peer database of the UDP hole-punching route (`routes/database.rs`).

   An `Entry` carries the `sm!` route state of its peer and five optional fields
   (`tx_peer_id`, `remote_endpoint`, `trav_session`, `candidates`, `metric`) that the
   operations set and clear one at a time. The `&mut self` methods that can fail are programs
   of `EntryM`, the state-and-error monad `EStateM`: a `?` or an early `return Err` leaves
   behind whatever the method had already written, exactly as it does in the source.

   Time is an explicit clock reading: `Instant` and `Duration` are nanoseconds. What a method
   learns from outside (the clock, the wall-clock timestamp, a fresh random session, whether
   the control channel and the socket take a send) is its `Io` argument. The messages sent
   are not recorded; only the result a failed send produces is. -/

import Libtelio.Lib.EState
import Libtelio.Lib.MultiMap
import Libtelio.TelioCrypto.Key
import Libtelio.TelioProto.Packet

set_option autoImplicit false
set_option relaxedAutoImplicit false

namespace Libtelio.TelioTraversal

open Libtelio.Net Libtelio.TelioCrypto Libtelio.TelioProto Libtelio.Lib

/-- `route::Error`. -/
inductive RouteError
  | setNodesFailed
  | nodeNotFound
  | latencyUnknown
  | task
  deriving DecidableEq, Repr

namespace Routes

/-- `tokio::time::Instant`, in nanoseconds of a monotone clock. -/
abbrev Instant := Nat

/-- `Duration`, in nanoseconds. -/
abbrev Duration := Nat

/-- `Duration::MAX`. -/
def durationMax : Duration := 18446744073709551615 * 1000000000 + 999999999

/-- `Instant::elapsed`, read at `now`. -/
def elapsed (since now : Instant) : Duration := now - since

/-- `RouteState::Variant`: the states of the `sm!` machine, each named by the state and the
event that entered it. -/
inductive RouteState
  | initialDisconnected
  | sentCallMeMaybeByStart
  | pingingByPing
  | connectedByActivate
  | disconnectedByBreak
  deriving DecidableEq, Repr

/-- `Latency`. -/
inductive Latency
  | unknown
  | measured (latency : Duration)
  deriving DecidableEq, Repr

/-- `Metric`. -/
structure Metric where
  pingSession : Option Session
  lastMeasure : Instant
  latency : Latency
  deriving DecidableEq, Repr

/-- `Metric::default`, created at `now`. -/
def Metric.default (now : Instant) : Metric :=
  { pingSession := none, lastMeasure := now, latency := .unknown }

/-- `Entry` of the database. -/
structure Entry where
  txPeerId : Option PeerId
  rxPeerId : PeerId
  remoteEndpoint : Option SocketAddr
  lastRx : Instant
  lastSmTransition : Instant
  state : RouteState
  travSession : Option Session
  candidates : Option (AList (fun _ : SocketAddr => Option Duration))
  pk : PublicKey
  metric : Option Metric

/-- `database::Error`, with the variants this code returns. -/
inductive Error
  | invalidCurrentState
  | controlChanTryErr
  | noTxPeerId
  | endpointCandidateMissing
  | endpointMismatch
  | invalidTimestamp
  | sessionMismatch
  | unexpectedPacket
  | socket
  | publicKeyNotFound
  | pathDisconnected
  | route (error : RouteError)
  deriving DecidableEq, Repr

/-- What an operation of the route reads from outside it. -/
structure Io where
  /-- `Instant::now()`. -/
  now : Instant
  /-- `get_timestamp()`. -/
  timestamp : Timestamp
  /-- `rand::random::<Session>()`. -/
  session : Session
  /-- `chan.tx.try_send(..)` succeeds. -/
  controlSendOk : Bool
  /-- `socket.send_to(..)` succeeds. -/
  socketSendOk : Bool
  /-- `stunner_tx.try_send(..)` succeeds. -/
  stunnerSendOk : Bool

/-- A `&mut Entry` method returning `Result<α>`. -/
abbrev EntryM := EStateM Error Entry

namespace Entry

/-- `Entry::new`. -/
def new (rxPeerId : PeerId) (pk : PublicKey) (now : Instant) : Entry :=
  { txPeerId := none, rxPeerId, remoteEndpoint := none, lastRx := now, lastSmTransition := now,
    state := .initialDisconnected, travSession := none, candidates := none, pk, metric := none }

/-- `is_cmm_handshake_complete`. -/
def isCmmHandshakeComplete (self : Entry) : Bool := self.txPeerId.isSome

/-- `is_pinging`. -/
def isPinging (self : Entry) (now : Instant) : Option Duration :=
  if self.state = .pingingByPing ∧ self.remoteEndpoint.isNone ∧ self.travSession.isSome ∧
      self.candidates.isSome ∧ self.isCmmHandshakeComplete ∧ self.metric.isNone then
    some (elapsed self.lastSmTransition now)
  else none

/-- `is_sent_cmm`. -/
def isSentCmm (self : Entry) (now : Instant) : Option Duration :=
  if self.state = .sentCallMeMaybeByStart ∧ self.travSession.isSome ∧
      self.remoteEndpoint.isNone ∧ self.candidates.isNone ∧ self.metric.isNone then
    some (elapsed self.lastSmTransition now)
  else none

/-- `is_connected`: the time since the last received packet. -/
def isConnected (self : Entry) (now : Instant) : Option Duration :=
  if self.state = .connectedByActivate ∧ self.travSession.isNone ∧ self.candidates.isNone ∧
      self.remoteEndpoint.isSome ∧ self.isCmmHandshakeComplete ∧ self.metric.isSome then
    some (elapsed self.lastRx now)
  else none

/-- `is_disconnected`. -/
def isDisconnected (self : Entry) (now : Instant) : Option Duration :=
  if (self.state = .disconnectedByBreak ∨ self.state = .initialDisconnected) ∧
      self.remoteEndpoint.isNone ∧ self.travSession.isNone ∧ self.candidates.isNone ∧
      self.metric.isNone then
    some (elapsed self.lastSmTransition now)
  else none

section Predicates

variable (self : Entry) (now : Instant)

@[simp] theorem isPinging_isSome :
    (self.isPinging now).isSome ↔
      self.state = .pingingByPing ∧ self.remoteEndpoint = none ∧ self.travSession.isSome ∧
        self.candidates.isSome ∧ self.txPeerId.isSome ∧ self.metric = none := by
  simp [isPinging, isCmmHandshakeComplete]

@[simp] theorem isSentCmm_isSome :
    (self.isSentCmm now).isSome ↔
      self.state = .sentCallMeMaybeByStart ∧ self.travSession.isSome ∧
        self.remoteEndpoint = none ∧ self.candidates = none ∧ self.metric = none := by
  simp [isSentCmm]

@[simp] theorem isConnected_isSome :
    (self.isConnected now).isSome ↔
      self.state = .connectedByActivate ∧ self.travSession = none ∧ self.candidates = none ∧
        self.remoteEndpoint.isSome ∧ self.txPeerId.isSome ∧ self.metric.isSome := by
  simp [isConnected, isCmmHandshakeComplete]

@[simp] theorem isDisconnected_isSome :
    (self.isDisconnected now).isSome ↔
      (self.state = .disconnectedByBreak ∨ self.state = .initialDisconnected) ∧
        self.remoteEndpoint = none ∧ self.travSession = none ∧ self.candidates = none ∧
        self.metric = none := by
  simp [isDisconnected]

@[simp] theorem isPinging_eq_none :
    self.isPinging now = none ↔
      ¬(self.state = .pingingByPing ∧ self.remoteEndpoint = none ∧ self.travSession.isSome ∧
        self.candidates.isSome ∧ self.txPeerId.isSome ∧ self.metric = none) := by
  rw [← isPinging_isSome, Option.not_isSome_iff_eq_none]

@[simp] theorem isSentCmm_eq_none :
    self.isSentCmm now = none ↔
      ¬(self.state = .sentCallMeMaybeByStart ∧ self.travSession.isSome ∧
        self.remoteEndpoint = none ∧ self.candidates = none ∧ self.metric = none) := by
  rw [← isSentCmm_isSome, Option.not_isSome_iff_eq_none]

@[simp] theorem isConnected_eq_none :
    self.isConnected now = none ↔
      ¬(self.state = .connectedByActivate ∧ self.travSession = none ∧ self.candidates = none ∧
        self.remoteEndpoint.isSome ∧ self.txPeerId.isSome ∧ self.metric.isSome) := by
  rw [← isConnected_isSome, Option.not_isSome_iff_eq_none]

@[simp] theorem isDisconnected_eq_none :
    self.isDisconnected now = none ↔
      ¬((self.state = .disconnectedByBreak ∨ self.state = .initialDisconnected) ∧
        self.remoteEndpoint = none ∧ self.travSession = none ∧ self.candidates = none ∧
        self.metric = none) := by
  rw [← isDisconnected_isSome, Option.not_isSome_iff_eq_none]

end Predicates

/-- `is_measuring_metric`. -/
def isMeasuringMetric (self : Entry) (now : Instant) : Option (Duration × Session) :=
  if (self.isConnected now).isSome then
    match self.metric with
    | some metric =>
      match metric.pingSession with
      | some sess => some (elapsed metric.lastMeasure now, sess)
      | none => none
    | none => none
  else none

/-- `last_metric_measure`. -/
def lastMetricMeasure (self : Entry) (now : Instant) : Option Duration :=
  if (self.isConnected now).isSome ∧ (self.isMeasuringMetric now).isNone then
    self.metric.map fun metric => elapsed metric.lastMeasure now
  else none

/-- `get_metric`. -/
def getMetric (self : Entry) (now : Instant) : Option Latency :=
  if (self.isConnected now).isSome then self.metric.map Metric.latency else none

/-- `get_state`. -/
def getState (self : Entry) (now : Instant) : RouteState × Duration :=
  (self.state, elapsed self.lastSmTransition now)

/-- `get_traversal_session`. -/
def getTraversalSession (self : Entry) : Option Session := self.travSession

/-- `get_tx_peer_id`. -/
def getTxPeerId (self : Entry) : Except Error PeerId :=
  match self.txPeerId with
  | some txPeerId => .ok txPeerId
  | none => .error .noTxPeerId

/-- `matches!(value, _old_state)`. `_old_state` in pattern position is a fresh binding, not
the variable of that name, so the pattern matches every value. -/
def matchesOldState (_value : RouteState) : Bool := true

/-- The transition `switch_route` takes: `Activate` when `connected`, `Break` otherwise, and
none where the machine has no such edge. -/
def switchState (state : RouteState) (connected : Bool) : RouteState :=
  match state with
  | .initialDisconnected => if connected then .connectedByActivate else .initialDisconnected
  | .sentCallMeMaybeByStart => if connected then .connectedByActivate else .disconnectedByBreak
  | .pingingByPing => if connected then .connectedByActivate else .disconnectedByBreak
  | .connectedByActivate => if connected then .connectedByActivate else .disconnectedByBreak
  | .disconnectedByBreak => if connected then .connectedByActivate else .disconnectedByBreak

/-- `switch_route`. The transition time is written when `!matches!(self.state.clone(),
_old_state)`, which never holds. -/
def switchRoute (self : Entry) (connected : Bool) (now : Instant) : Entry :=
  let self := { self with travSession := none }
  let self := { self with state := switchState self.state connected }
  if !matchesOldState self.state then { self with lastSmTransition := now } else self

/-- `disconnect_route`, which always returns `Ok(())`; the event send is not checked. -/
def disconnectRoute (self : Entry) (now : Instant) : Entry :=
  let self :=
    { self with remoteEndpoint := none, travSession := none, candidates := none, metric := none }
  self.switchRoute false now

section Transitions

variable (self : Entry) (connected : Bool) (now : Instant)

@[simp] theorem switchState_true (state : RouteState) :
    switchState state true = .connectedByActivate := by
  cases state <;> rfl

@[simp] theorem switchState_false (state : RouteState) :
    switchState state false =
      if state = .initialDisconnected then .initialDisconnected else .disconnectedByBreak := by
  cases state <;> rfl

/-- Since `matchesOldState` always holds, `switch_route` changes the state and drops the
traversal session, and nothing else: in particular not the transition time. -/
@[simp] theorem switchRoute_eq :
    self.switchRoute connected now =
      { self with travSession := none, state := switchState self.state connected } := by
  simp [switchRoute, matchesOldState]

@[simp] theorem disconnectRoute_eq :
    self.disconnectRoute now =
      { self with
        remoteEndpoint := none, travSession := none, candidates := none, metric := none,
        state := switchState self.state false } := by
  simp [disconnectRoute]

end Transitions

end Entry

/-- `ping_endpoints`: one ping per endpoint; the first failed send ends it with its error. -/
def pingEndpoints (endpoints : List SocketAddr) (io : Io) : EntryM Unit :=
  if endpoints.isEmpty || io.socketSendOk then pure () else throw .socket

/-- The candidates map `start_pinging` builds: every endpoint, with no latency yet. -/
def newCandidates (endpoints : List SocketAddr) : AList (fun _ : SocketAddr => Option Duration) :=
  endpoints.foldl (fun candidates endpoint => candidates.insert endpoint none) ∅

/-- The `min_by` of `choose_route`: the first candidate of least latency among those that
received a pong. -/
def chooseCandidate (candidates : AList (fun _ : SocketAddr => Option Duration)) :
    Option (SocketAddr × Option Duration) :=
  let measured := (candidates.entries.filter fun c => c.2.isSome).map fun c => (c.1, c.2)
  measured.foldl (fun best c =>
    match best with
    | none => some c
    | some b => if c.2.getD durationMax < b.2.getD durationMax then some c else some b) none

/-- `update_metric`. -/
def updateMetric (latency : Latency) (now : Instant) : EntryM Unit := do
  let self ← get
  match self.metric with
  | some metric =>
    set { self with metric := some { metric with latency, pingSession := none, lastMeasure := now } }
  | none => throw .invalidCurrentState

/-- `start_measuring_metric`. -/
def startMeasuringMetric (io : Io) : EntryM Unit := do
  -- stop the current measurement before starting a new one
  if ((← get).isMeasuringMetric io.now).isSome then
    updateMetric .unknown io.now
  let self ← get
  if (self.isConnected io.now).isSome then
    match self.metric with
    | some metric =>
      let session := metric.pingSession.getD io.session
      set { self with metric := some { metric with pingSession := some session } }
      match self.txPeerId with
      | none => throw .noTxPeerId
      | some _ =>
        match self.remoteEndpoint with
        | none => throw .endpointCandidateMissing
        | some endpoint => pingEndpoints [endpoint] io
    | none => throw .invalidCurrentState
  else throw .invalidCurrentState

/-- `start_sent_call_me_maybe`. -/
def startSentCallMeMaybe (io : Io) : EntryM Unit := do
  -- sanity check
  if ((← get).isDisconnected io.now).isNone then
    modify fun self => self.disconnectRoute io.now
  let self ← get
  match self.state with
  | .disconnectedByBreak | .initialDisconnected =>
    set { self with state := .sentCallMeMaybeByStart }
  | _ => throw .invalidCurrentState
  modify fun self => { self with lastSmTransition := io.now }
  modify fun self => { self with travSession := some io.session }
  if !io.controlSendOk then throw .controlChanTryErr

/-- `start_pinging`. The result of `ping_endpoints` is dropped. -/
def startPinging (endpoints : List SocketAddr) (io : Io) : EntryM Unit := do
  if ((← get).isSentCmm io.now).isNone then throw .invalidCurrentState
  let self ← get
  match self.state with
  | .sentCallMeMaybeByStart =>
    set { self with lastSmTransition := io.now, state := .pingingByPing }
  | _ => throw .invalidCurrentState
  modify fun self => { self with candidates := some (newCandidates endpoints) }
  modify fun self => { self with travSession := some (self.travSession.getD io.session) }
  match (← get).txPeerId with
  | none => throw .noTxPeerId
  | some _ => pure ()

/-- `connect_route`. The event send is not checked. -/
def connectRoute (endpoint : SocketAddr) (latency : Latency) (io : Io) : EntryM Unit := do
  if !(← get).isCmmHandshakeComplete then throw .noTxPeerId
  modify fun self => { self with remoteEndpoint := some endpoint }
  modify fun self => { self with travSession := none, candidates := none }
  modify fun self => self.switchRoute true io.now
  modify fun self => { self with lastRx := io.now }
  modify fun self => { self with metric := some (Metric.default io.now) }
  updateMetric latency io.now
  -- a route connected with no knowledge of its latency is measured at once
  match latency with
  | .unknown => startMeasuringMetric io
  | .measured _ => pure ()

/-- `choose_route`. -/
def chooseRoute (io : Io) : EntryM Unit := do
  let self ← get
  if (self.isPinging io.now).isNone then throw .invalidCurrentState
  match self.candidates with
  | some candidates =>
    match chooseCandidate candidates with
    | some (endpoint, latency) =>
      connectRoute endpoint (match latency with
        | some l => .measured l
        | none => .unknown) io
    | none => throw .endpointCandidateMissing
  | none => throw .endpointCandidateMissing

/-- `handle_data_packet_rx`. -/
def handleDataPacketRx (remoteAddr : SocketAddr) (io : Io) : EntryM Unit := do
  let self ← get
  if (self.isConnected io.now).isNone then
    connectRoute remoteAddr .unknown io
  else
    match self.remoteEndpoint with
    | some endp =>
      if endp = remoteAddr then set { self with lastRx := io.now }
      else throw .endpointMismatch
    | none => throw .invalidCurrentState

/-- `handle_pong_rx`: a pong either reports a candidate's latency while pinging or ends the
metric measurement of a connected route. -/
def handlePongRx (remoteAddr : SocketAddr) (pongSess : Session) (pongTs : Timestamp)
    (io : Io) : EntryM Unit := do
  let currTs := io.timestamp
  if pongTs ≥ currTs then throw .invalidTimestamp
  let latency : Duration := (currTs - pongTs).toNat * 1000
  let self ← get
  if (self.isPinging io.now).isSome then
    if some pongSess ≠ self.getTraversalSession then throw .sessionMismatch
    match self.candidates with
    | some candidates =>
      if remoteAddr ∈ candidates then
        set { self with candidates := some (candidates.replace remoteAddr (some latency)) }
      else throw .unexpectedPacket
    | none => throw .unexpectedPacket
    modify fun self => { self with lastRx := io.now }
  else
    match self.isMeasuringMetric io.now with
    | some (_, expectedSession) =>
      if pongSess ≠ expectedSession then throw .sessionMismatch
      modify fun self => { self with lastRx := io.now }
      updateMetric (.measured latency) io.now
    | none => throw .invalidCurrentState

/-- `handle_cmm_init_rx`, a `&self` method: it needs the peer's `tx_peer_id` for its pings,
whose result it drops, and answers through a reserved permit, which cannot fail. -/
def handleCmmInitRx : EntryM Unit := do
  match (← get).txPeerId with
  | none => throw .noTxPeerId
  | some _ => pure ()

/-- `Database`. -/
structure Database where
  pidCnt : UInt16
  pidCache : AList (fun _ : PublicKey => PeerId)
  entries : MultiMap PublicKey PeerId Entry

namespace Database

/-- `Database::default`; peer id `0` is reserved. -/
def default : Database := { pidCnt := 1, pidCache := ∅, entries := MultiMap.new }

/-- `generate_rx_peer_id`: the cached id of `pk`, or the next one. The counter wraps, as
`u16` addition does in a release build. -/
def generateRxPeerId (self : Database) (pk : PublicKey) : Database × PeerId :=
  match self.pidCache.lookup pk with
  | some rpid => (self, rpid)
  | none =>
    let res : PeerId := ⟨self.pidCnt⟩
    ({ self with pidCache := self.pidCache.insert pk res, pidCnt := self.pidCnt + 1 }, res)

/-- `insert`: a new entry for each key not yet present. -/
def insert (self : Database) (pks : List PublicKey) (now : Instant) : Database :=
  let keys := pks.filter fun key => !self.entries.containsKey key
  keys.foldl (fun db key =>
    let (db, rxPeerId) := db.generateRxPeerId key
    { db with entries := db.entries.insert key rxPeerId (Entry.new rxPeerId key now) }) self

/-- `remove`. -/
def remove (self : Database) (pk : PublicKey) : Database × Option Entry :=
  ({ self with entries := (self.entries.remove pk).1 }, (self.entries.remove pk).2)

/-- `flush`. -/
def flush (self : Database) : Database := { self with entries := MultiMap.new }

/-- `contains_key`. -/
def containsKey (self : Database) (key : PublicKey) : Bool := self.entries.containsKey key

/-- `get_entry_by_pk`. -/
def getEntryByPk (self : Database) (pk : PublicKey) : Except Error Entry :=
  match self.entries.get pk with
  | some entry => .ok entry
  | none => .error .publicKeyNotFound

/-- A method run on the entry `get_mut_entry_by_pk` finds, written back in place. -/
def withEntryByPk {α : Type} (self : Database) (pk : PublicKey) (x : EntryM α) :
    Database × Except Error α :=
  match self.entries.get pk with
  | some entry =>
    let (entry', result) := EState.runOn x entry
    ({ self with entries := self.entries.modify pk fun _ => entry' }, result)
  | none => (self, .error .publicKeyNotFound)

/-- `get_mut_entry_by_pid`, read only. -/
def getEntryByPid (self : Database) (peerId : PeerId) : Except Error Entry :=
  match self.entries.getAltWithKey peerId with
  | some (_, entry) => .ok entry
  | none => .error .publicKeyNotFound

/-- A method run on the entry `get_mut_entry_by_pid` finds, written back in place. -/
def withEntryByPid {α : Type} (self : Database) (peerId : PeerId) (x : EntryM α) :
    Database × Except Error α :=
  match self.entries.getAltWithKey peerId with
  | some (key, entry) =>
    let (entry', result) := EState.runOn x entry
    ({ self with entries := self.entries.modify key fun _ => entry' }, result)
  | none => (self, .error .publicKeyNotFound)

/-- `update_tx_peer_id`. -/
def updateTxPeerId (self : Database) (pk : PublicKey) (txPeerId : PeerId) :
    Database × Except Error Unit :=
  self.withEntryByPk pk (modify fun entry => { entry with txPeerId := some txPeerId })

/-- `get_packet_info_tx`: where and under which peer id to send to a connected peer. -/
def getPacketInfoTx (self : Database) (pubKey : PublicKey) (now : Instant) :
    Except Error (SocketAddr × PeerId) :=
  match self.entries.get pubKey with
  | some entry =>
    if (entry.isConnected now).isSome then
      match entry.remoteEndpoint with
      | none => .error .invalidCurrentState
      | some endpoint =>
        match entry.txPeerId with
        | none => .error .noTxPeerId
        | some txPeerId => .ok (endpoint, txPeerId)
    else .error .pathDisconnected
  | none => .error .publicKeyNotFound

/-- `get_packet_info_rx`: the entry under our peer id sees a data packet from `addr`. -/
def getPacketInfoRx (self : Database) (peerId : PeerId) (addr : SocketAddr) (io : Io) :
    Database × Except Error PublicKey :=
  match self.entries.getAltWithKey peerId with
  | some (key, entry) =>
    let (entry', result) := EState.runOn (handleDataPacketRx addr io) entry
    ({ self with entries := self.entries.modify key fun _ => entry' }, result.map fun _ => key)
  | none => (self, .error .publicKeyNotFound)

/-- `get_state`: whether the peer has a connected path. -/
def getState (self : Database) (pubKey : PublicKey) (now : Instant) : Except Error Unit :=
  match self.entries.get pubKey with
  | some ent => if (ent.isConnected now).isSome then .ok () else .error .pathDisconnected
  | none => .error .publicKeyNotFound

/-- `get_rtt`. -/
def getRtt (self : Database) (pubKey : PublicKey) (now : Instant) : Except Error Duration :=
  match self.entries.get pubKey with
  | some ent =>
    match ent.getMetric now with
    | some (.measured d) => .ok d
    | some .unknown => .error (.route .latencyUnknown)
    | none => .error .pathDisconnected
  | none => .error (.route .nodeNotFound)

end Database

end Libtelio.TelioTraversal.Routes
