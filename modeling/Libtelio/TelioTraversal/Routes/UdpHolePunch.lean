/- The UDP hole-punching route (`routes/udp_hole_punch.rs`): the task's `State`, the calls of
   its `Route` and `Configure` API, and the handlers its event loop runs.

   A handler is a program of `HolePunchM`, state and error as in `Database`: what it wrote to
   the database before a `?` stays written. The loop of `handle_peer_states` is a pass of
   `MultiMap.updateEach` whose body, `handlePeerState`, is a program on one entry. The
   stunner is a component of its own: what `fetch_endpoints` yields is an argument, one per
   entry the pass visits, and `do_stun` does not touch this state. Received packets come
   decoded (`RxPacket`). The constants are those of the production build. -/

import Libtelio.TelioRelay.Derp.Config
import Libtelio.TelioTraversal.Routes.Database

set_option autoImplicit false
set_option relaxedAutoImplicit false

namespace Libtelio.TelioTraversal.Routes.UdpHolePunch

open Libtelio.Net Libtelio.TelioCrypto Libtelio.TelioProto Libtelio.Lib Libtelio.TelioRelay

/-- `PING_METRIC_INTERVAL`. -/
def pingMetricInterval : Duration := 25 * 1000000000

/-- `PING_TIMEOUT`. -/
def pingTimeout : Duration := 5 * 1000000000

/-- `NO_DATA_TIMEOUT`. -/
def noDataTimeout : Duration := 60 * 1000000000

/-- `CALL_ME_MAYBE_TIMEOUT`. -/
def callMeMaybeTimeout : Duration := 5 * 1000000000

/-- `DISCONNECTED_GRACE_PERIOD`. -/
def disconnectedGracePeriod : Duration := 5 * 1000000000

/-- `USE_PLAINTEXT_STUN`. -/
def usePlaintextStun : Bool := true

/-- `udp_hole_punch::Error`, with the variants the handlers return. -/
inductive Error
  | unexpectedPacket
  | socketError
  | packetCodecError
  | stunnerChanTryErr
  | stunnerErr
  | dbError (error : Routes.Error)
  deriving DecidableEq, Repr

/-- What `Packet::decode` makes of a received datagram. -/
inductive RxPacket
  | data (msg : DataMsg)
  | pingerDeprecated (msg : PingerMsgDeprecated)
  | other
  | undecodable
  deriving DecidableEq, Repr

/-- The task `State`, with the fields its handlers read and write. -/
structure State where
  stunnerSrvList : Option (List SocketAddr)
  db : Database

/-- The state `UdpHolePunch::start` creates. -/
def State.new : State := { stunnerSrvList := none, db := Database.default }

/-- A handler of the task. -/
abbrev HolePunchM := EStateM Error State

/-- A `Database` result under `?`: its error becomes `Error::DbError`. -/
def liftDbResult {α : Type} (result : Except Routes.Error α) : HolePunchM α :=
  match result with
  | .ok a => pure a
  | .error e => throw (.dbError e)

/-- A `&mut Database` method under `?`: what it wrote stays, its error becomes `DbError`. -/
def liftDb {α : Type} (f : Database → Database × Except Routes.Error α) : HolePunchM α := do
  let self ← get
  let (db, result) := f self.db
  set { self with db }
  liftDbResult result

/-- An entry method under `?` inside the loop of `handle_peer_states`. -/
def entryCall (x : EntryM Unit) : EStateM Error Entry Unit := EStateM.adaptExcept .dbError x

/-- The body of the loop of `handle_peer_states` for one entry. `endpoints` is what
`self.stunner.fetch_endpoints().await?.to_vec()?` yields for it. -/
def handlePeerState (endpoints : Except Error (List SocketAddr)) (io : Io) :
    EStateM Error Entry Unit := do
  let entry ← get
  match entry.getState io.now with
  | (.disconnectedByBreak, d) =>
    if d ≥ disconnectedGracePeriod then
      let _ ← MonadExcept.ofExcept endpoints
      entryCall (startSentCallMeMaybe io)
  | (.initialDisconnected, _) =>
    let _ ← MonadExcept.ofExcept endpoints
    entryCall (startSentCallMeMaybe io)
  | (.sentCallMeMaybeByStart, d) =>
    if d ≥ callMeMaybeTimeout then
      modify fun entry => entry.disconnectRoute io.now
  | (.pingingByPing, d) =>
    if d ≥ pingTimeout then
      -- a route that cannot be chosen is broken
      tryCatch (entryCall (chooseRoute io)) fun _ =>
        modify fun entry => entry.disconnectRoute io.now
  | (.connectedByActivate, _) =>
    match entry.isConnected io.now with
    | some lastRxDur =>
      if lastRxDur > noDataTimeout then
        modify fun entry => entry.disconnectRoute io.now
    | none => pure ()
    -- the metric is measured on the entry as the disconnection left it; failures are logged
    let entry ← get
    match entry.isMeasuringMetric io.now with
    | some (measureStart, _) =>
      if measureStart > pingTimeout then
        tryCatch (entryCall (startMeasuringMetric io)) fun _ => pure ()
    | none =>
      match entry.lastMetricMeasure io.now with
      | some measureLast =>
        if measureLast > pingMetricInterval then
          tryCatch (entryCall (startMeasuringMetric io)) fun _ => pure ()
      | none => pure ()

/-- `handle_peer_states`: one pass over the entries, stopped by the first error. -/
def handlePeerStates (endpoints : PublicKey → Except Error (List SocketAddr))
    (io : PublicKey → Io) : HolePunchM Unit := do
  let self ← get
  let (entries, result) := self.db.entries.updateEach fun pk entry =>
    EState.runOn (handlePeerState (endpoints pk) (io pk)) entry
  set { self with db := { self.db with entries } }
  MonadExcept.ofExcept result

namespace State

/-- `reset_peers_states`: disconnect every entry, or with `not_conn` every entry that is not
connected. -/
def resetPeersStates (self : State) (notConn : Bool) (now : Instant) : State :=
  let reset := fun (_ : PublicKey) (entry : Entry) =>
    ((if !notConn || (entry.isConnected now).isNone then entry.disconnectRoute now else entry),
      (.ok () : Except Error Unit))
  { self with db := { self.db with entries := (self.db.entries.updateEach reset).1 } }

/-- `configure`: the STUN addresses of the servers, then every route not connected is reset.
The new configuration also goes to the stunner. -/
def configure (self : State) (config : Derp.Config) (now : Instant) : State :=
  let list := config.servers.map fun srv => (⟨.v4 srv.ipv4, srv.stunPort⟩ : SocketAddr)
  let list := if usePlaintextStun then
      list ++ config.servers.map fun srv => (⟨.v4 srv.ipv4, srv.stunPlaintextPort⟩ : SocketAddr)
    else list
  let self := { self with stunnerSrvList := some list }
  self.resetPeersStates true now

/-- `set_nodes`. Its `let _ = s.handle_peer_states();` drops the future unpolled, so no pass
runs. -/
def setNodes (self : State) (nodes : List PublicKey) (now : Instant) : State :=
  { self with db := self.db.flush.insert nodes now }

/-- `update_nodes`: drop the entries of keys not in `nodes`, add the new keys, keep the rest. -/
def updateNodes (self : State) (nodes : List PublicKey) (now : Instant) : State :=
  let currDb := self.db.entries.keys
  let db := currDb.foldl (fun db currNode =>
    if currNode ∈ nodes then db else (db.remove currNode).1) self.db
  let nodes := nodes.filter fun v => !db.containsKey v
  { self with db := db.insert nodes now }

/-- `reset_nodes`: disconnect the route of each listed key present. -/
def resetNodes (self : State) (nodes : List PublicKey) (now : Instant) : State :=
  { self with
    db := nodes.foldl (fun db node =>
      (db.withEntryByPk node (modify fun entry => entry.disconnectRoute now)).1) self.db }

/-- `is_reachable`. -/
def isReachable (self : State) (node : PublicKey) (now : Instant) : Bool :=
  match self.db.getState node now with
  | .ok () => true
  | .error _ => false

/-- `rtt`: the route's own errors pass through, any other becomes `LatencyUnknown`. -/
def rtt (self : State) (node : PublicKey) (now : Instant) : Except RouteError Duration :=
  match self.db.getRtt node now with
  | .ok d => .ok d
  | .error (.route re) => .error re
  | .error _ => .error .latencyUnknown

end State

/-- `handle_stun_packet`: the datagram goes to the stunner. -/
def handleStunPacket (io : Io) : HolePunchM Unit :=
  if io.stunnerSendOk then pure () else throw .stunnerChanTryErr

/-- `handle_rx_data_packet`: a GenData packet with our peer id for the peer. -/
def handleRxDataPacket (payload : DataMsg) (src : SocketAddr) (io : Io) : HolePunchM Unit := do
  if payload.getGeneration.isNone then throw .unexpectedPacket
  match payload.getPeerId with
  | none => throw .unexpectedPacket
  | some pid =>
    -- the payload then goes up through the reserved permit
    let _ ← liftDb fun db => db.getPacketInfoRx pid src io
    pure ()

/-- `handle_rx_pinger_packet`: a ping is answered, a pong goes to the entry. -/
def handleRxPingerPacket (msg : PingerMsgDeprecated) (src : SocketAddr) (io : Io) :
    HolePunchM Unit := do
  let entry ← liftDbResult ((← get).db.getEntryByPid msg.peerId)
  let txPeerId ← liftDbResult entry.getTxPeerId
  match msg.pong txPeerId with
  | some _ => if io.socketSendOk then pure () else throw .socketError
  | none =>
    liftDb fun db =>
      db.withEntryByPid msg.peerId (handlePongRx src msg.session msg.startTimestamp io)

/-- `handle_rx_packet`: datagrams from a STUN server go to the stunner, the rest is decoded
and dispatched. -/
def handleRxPacket (src : SocketAddr) (packet : RxPacket) (io : Io) : HolePunchM Unit := do
  if let some list := (← get).stunnerSrvList then
    if src ∈ list then
      handleStunPacket io
      return
  match packet with
  | .data dataMsg => handleRxDataPacket dataMsg src io
  | .pingerDeprecated pingerMsg => handleRxPingerPacket pingerMsg src io
  | .undecodable => throw .packetCodecError
  | .other => throw .unexpectedPacket

/-- `handle_tx_data_packet`: a data packet for a connected peer is stamped and sent. -/
def handleTxDataPacket (payload : DataMsg) (pk : PublicKey) (io : Io) : HolePunchM Unit := do
  let payload := if payload.getGeneration.isNone then payload.setGeneration ⟨1⟩ else payload
  let (_dstAddr, peerId) ← liftDbResult ((← get).db.getPacketInfoTx pk io.now)
  match payload.setPeerId peerId with
  | none => throw .packetCodecError
  | some _ => if io.socketSendOk then pure () else throw .socketError

/-- `handle_call_me_maybe`: a response must carry our traversal session; the sender's peer id
is recorded either way, then an initiator is answered and a response starts the pinging. -/
def handleCallMeMaybe (pk : PublicKey) (msg : CallMeMaybeMsgDeprecated)
    (endpoints : Except Error (List SocketAddr)) (io : Io) : HolePunchM Unit := do
  if msg.iAm = .responder then
    let entry ← liftDbResult ((← get).db.getEntryByPk pk)
    if some msg.session ≠ entry.getTraversalSession then throw (.dbError .sessionMismatch)
  liftDb fun db => db.updateTxPeerId pk msg.getPeerId
  let _ ← liftDbResult ((← get).db.getEntryByPk pk)
  match msg.iAm with
  | .initiator =>
    let _ ← MonadExcept.ofExcept endpoints
    liftDb fun db => db.withEntryByPk pk handleCmmInitRx
  | .responder =>
    liftDb fun db => db.withEntryByPk pk (startPinging msg.myAddresses io)

/-- What reaches the task: the API calls, the periodic check of the peers' states and the
events of its loop. -/
inductive Op
  | configure (config : Derp.Config) (now : Instant)
  | setNodes (nodes : List PublicKey) (now : Instant)
  | updateNodes (nodes : List PublicKey) (now : Instant)
  | resetNodes (nodes : List PublicKey) (now : Instant)
  | handlePeerStates (endpoints : PublicKey → Except Error (List SocketAddr))
      (io : PublicKey → Io)
  | handleCallMeMaybe (pk : PublicKey) (msg : CallMeMaybeMsgDeprecated)
      (endpoints : Except Error (List SocketAddr)) (io : Io)
  | handleRxPacket (src : SocketAddr) (packet : RxPacket) (io : Io)
  | handleTxDataPacket (payload : DataMsg) (pk : PublicKey) (io : Io)

/-- One event of the task; the loop logs a handler's error and goes on. -/
def step (self : State) : Op → State
  | .configure config now => self.configure config now
  | .setNodes nodes now => self.setNodes nodes now
  | .updateNodes nodes now => self.updateNodes nodes now
  | .resetNodes nodes now => self.resetNodes nodes now
  | .handlePeerStates endpoints io => (EState.runOn (handlePeerStates endpoints io) self).1
  | .handleCallMeMaybe pk msg endpoints io =>
    (EState.runOn (handleCallMeMaybe pk msg endpoints io) self).1
  | .handleRxPacket src packet io => (EState.runOn (handleRxPacket src packet io) self).1
  | .handleTxDataPacket payload pk io =>
    (EState.runOn (handleTxDataPacket payload pk io) self).1

end Libtelio.TelioTraversal.Routes.UdpHolePunch
