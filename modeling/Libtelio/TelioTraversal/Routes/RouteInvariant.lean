/- The route invariant over whole runs of the hole-punching task.

   `Database.Inv` asks `Entry.Inv` of every entry. Each database method keeps it, given that
   the entry method it runs keeps `Entry.Inv` (the triples of `EntrySpec`); each handler of
   the task keeps it on both exits, so that an error part-way leaves a valid database; and so
   every state any run reaches from `State.new` has only entries that pass exactly the check
   of their route state (`route_checks_match_state`). -/

import Mathlib
import Libtelio.Lib.Run
import Libtelio.TelioTraversal.Routes.EntrySpec
import Libtelio.TelioTraversal.Routes.UdpHolePunch

set_option autoImplicit false
set_option relaxedAutoImplicit false
set_option mvcgen.warning false

namespace Libtelio.TelioTraversal.Routes

open Std.Do Libtelio.Net Libtelio.TelioCrypto Libtelio.TelioProto Libtelio.Lib
open Libtelio.Lib.EState

/-- Every entry of the database is valid. -/
def Database.Inv (db : Database) : Prop := MultiMap.All Entry.Inv db.entries

namespace Database

variable {db : Database} {α : Type}

theorem inv_default : Database.default.Inv := MultiMap.all_new

theorem inv_flush (db : Database) : db.flush.Inv := MultiMap.all_new

@[simp] theorem generateRxPeerId_entries (db : Database) (pk : PublicKey) :
    (db.generateRxPeerId pk).1.entries = db.entries := by
  unfold generateRxPeerId
  split <;> rfl

theorem Inv.insert (inv : db.Inv) (pks : List PublicKey) (now : Instant) :
    (db.insert pks now).Inv := by
  unfold Database.insert
  -- the loop adds one fresh entry per key, whatever the keys are
  generalize pks.filter _ = keys
  induction keys generalizing db with
  | nil => exact inv
  | cons key keys ih =>
    apply ih
    have fresh := Entry.inv_new (db.generateRxPeerId key).2 key now
    have kept : (db.generateRxPeerId key).1.Inv := by
      simpa [Database.Inv] using inv
    exact MultiMap.all_insert kept key _ fresh

theorem Inv.remove (inv : db.Inv) (pk : PublicKey) : (db.remove pk).1.Inv :=
  MultiMap.all_remove inv pk

theorem Inv.withEntryByPk {x : EntryM α} (inv : db.Inv) {pk : PublicKey}
    (keep : ∀ e, db.entries.get pk = some e → (runOn x e).1.Inv) :
    (db.withEntryByPk pk x).1.Inv := by
  unfold Database.withEntryByPk
  split
  · rename_i entry found
    exact MultiMap.all_modify inv pk fun _ _ => keep entry found
  · exact inv

theorem Inv.withEntryByPid {x : EntryM α} (inv : db.Inv) {peerId : PeerId}
    (keep : ∀ key e, db.entries.getAltWithKey peerId = some (key, e) → (runOn x e).1.Inv) :
    (db.withEntryByPid peerId x).1.Inv := by
  unfold Database.withEntryByPid
  split
  · rename_i key entry found
    exact MultiMap.all_modify inv key fun _ _ => keep key entry found
  · exact inv

/-- A method whose triple keeps `Entry.Inv` keeps the database valid, run by key. -/
theorem Inv.withEntryByPk_of_spec {x : EntryM α} (inv : db.Inv) (pk : PublicKey)
    (spec : ⦃fun e => ⌜e.Inv⌝⦄ x ⦃post⟨fun _ e => ⌜e.Inv⌝, fun _ e => ⌜e.Inv⌝⟩⦄) :
    (db.withEntryByPk pk x).1.Inv :=
  inv.withEntryByPk fun _ found => state_runOn_of_triple spec (inv.of_get found)

/-- A method whose triple keeps `Entry.Inv` keeps the database valid, run by peer id. -/
theorem Inv.withEntryByPid_of_spec {x : EntryM α} (inv : db.Inv) (peerId : PeerId)
    (spec : ⦃fun e => ⌜e.Inv⌝⦄ x ⦃post⟨fun _ e => ⌜e.Inv⌝, fun _ e => ⌜e.Inv⌝⟩⦄) :
    (db.withEntryByPid peerId x).1.Inv :=
  inv.withEntryByPid fun _ _ found => state_runOn_of_triple spec (inv.of_getAltWithKey found)

theorem Inv.handleCmmInitRx (inv : db.Inv) (pk : PublicKey) :
    (db.withEntryByPk pk handleCmmInitRx).1.Inv :=
  inv.withEntryByPk_of_spec pk handleCmmInitRx_spec

theorem Inv.handlePongRx (inv : db.Inv) (peerId : PeerId) (remoteAddr : SocketAddr)
    (pongSess : Session) (pongTs : Timestamp) (io : Io) :
    (db.withEntryByPid peerId (handlePongRx remoteAddr pongSess pongTs io)).1.Inv :=
  inv.withEntryByPid_of_spec peerId (handlePongRx_spec remoteAddr pongSess pongTs io)

theorem Inv.disconnectRoute (inv : db.Inv) (pk : PublicKey) (now : Instant) :
    (db.withEntryByPk pk (modify fun entry => entry.disconnectRoute now)).1.Inv :=
  inv.withEntryByPk fun e _ => Entry.inv_disconnectRoute e now

theorem Inv.updateTxPeerId (inv : db.Inv) (pk : PublicKey) (txPeerId : PeerId) :
    (db.updateTxPeerId pk txPeerId).1.Inv :=
  inv.withEntryByPk fun _ found => (inv.of_get found).setTxPeerId txPeerId

/-- After `update_tx_peer_id` the entry has the peer id. -/
theorem updateTxPeerId_get (db : Database) (pk : PublicKey) (txPeerId : PeerId) :
    (db.updateTxPeerId pk txPeerId).1.entries.get pk =
      (db.entries.get pk).map fun e => { e with txPeerId := some txPeerId } := by
  unfold updateTxPeerId withEntryByPk
  split
  · rename_i entry found
    simp [found]
  · rename_i missing
    simp [missing]

/-- The responder's path of `handle_call_me_maybe`: the peer id just recorded is what
`start_pinging` needs. -/
theorem Inv.startPinging_after_update (inv : db.Inv) (pk : PublicKey) (txPeerId : PeerId)
    (endpoints : List SocketAddr) (io : Io) :
    ((db.updateTxPeerId pk txPeerId).1.withEntryByPk pk (startPinging endpoints io)).1.Inv := by
  apply (inv.updateTxPeerId pk txPeerId).withEntryByPk
  intro e found
  rw [updateTxPeerId_get] at found
  obtain ⟨e₀, found₀, rfl⟩ := Option.map_eq_some_iff.mp found
  have valid : ({ e₀ with txPeerId := some txPeerId } : Entry).Inv :=
    (inv.of_get found₀).setTxPeerId txPeerId
  exact state_runOn_of_triple (startPinging_spec endpoints io) ⟨valid, rfl⟩

theorem Inv.getPacketInfoRx (inv : db.Inv) (peerId : PeerId) (addr : SocketAddr) (io : Io) :
    (db.getPacketInfoRx peerId addr io).1.Inv := by
  unfold Database.getPacketInfoRx
  split
  · rename_i key entry found
    exact MultiMap.all_modify inv key fun _ _ =>
      state_runOn_of_triple (handleDataPacketRx_spec addr io) (inv.of_getAltWithKey found)
  · exact inv

end Database

namespace UdpHolePunch

/-- The task's database is valid. -/
def State.Inv (s : State) : Prop := s.db.Inv

/-- One entry's turn in `handle_peer_states` keeps it valid, on every path through it. -/
theorem handlePeerState_spec (endpoints : Except Error (List SocketAddr)) (io : Io) :
    ⦃fun e => ⌜e.Inv⌝⦄ handlePeerState endpoints io
    ⦃post⟨fun _ e => ⌜e.Inv⌝, fun _ e => ⌜e.Inv⌝⟩⦄ := by
  mvcgen [handlePeerState, entryCall, MonadExcept.ofExcept, startSentCallMeMaybe_spec,
    chooseRoute_spec, startMeasuringMetric_spec]
  -- what is left are the disconnections, which `inv_disconnectRoute` covers in every state
  all_goals simp_all +zetaDelta [Entry.inv_disconnectRoute, -Entry.disconnectRoute_eq]

theorem handlePeerStates_spec (endpoints : PublicKey → Except Error (List SocketAddr))
    (io : PublicKey → Io) :
    ⦃fun s => ⌜s.Inv⌝⦄ handlePeerStates endpoints io
    ⦃post⟨fun _ s => ⌜s.Inv⌝, fun _ s => ⌜s.Inv⌝⟩⦄ := by
  mvcgen [handlePeerStates, MonadExcept.ofExcept]
  -- both exits write back the entries of the pass, each left valid by its turn
  all_goals rename_i s valid _ _
  all_goals exact MultiMap.all_updateEach (fun pk _ turn =>
    state_runOn_of_triple (handlePeerState_spec (endpoints pk) (io pk)) turn) valid

theorem handleCallMeMaybe_spec (pk : PublicKey) (msg : CallMeMaybeMsgDeprecated)
    (endpoints : Except Error (List SocketAddr)) (io : Io) :
    ⦃fun s => ⌜s.Inv⌝⦄ handleCallMeMaybe pk msg endpoints io
    ⦃post⟨fun _ s => ⌜s.Inv⌝, fun _ s => ⌜s.Inv⌝⟩⦄ := by
  mvcgen [handleCallMeMaybe, liftDb, liftDbResult, MonadExcept.ofExcept]
  all_goals simp_all +zetaDelta [State.Inv, Database.Inv.updateTxPeerId,
    Database.Inv.handleCmmInitRx, Database.Inv.startPinging_after_update]

theorem handleRxPacket_spec (src : SocketAddr) (packet : RxPacket) (io : Io) :
    ⦃fun s => ⌜s.Inv⌝⦄ handleRxPacket src packet io
    ⦃post⟨fun _ s => ⌜s.Inv⌝, fun _ s => ⌜s.Inv⌝⟩⦄ := by
  mvcgen [handleRxPacket, handleStunPacket, handleRxDataPacket, handleRxPingerPacket, liftDb,
    liftDbResult]
  all_goals simp_all +zetaDelta [State.Inv, Database.Inv.getPacketInfoRx,
    Database.Inv.handlePongRx]

theorem handleTxDataPacket_spec (payload : DataMsg) (pk : PublicKey) (io : Io) :
    ⦃fun s => ⌜s.Inv⌝⦄ handleTxDataPacket payload pk io
    ⦃post⟨fun _ s => ⌜s.Inv⌝, fun _ s => ⌜s.Inv⌝⟩⦄ := by
  mvcgen [handleTxDataPacket, liftDbResult]

namespace State

variable {s : State}

theorem Inv.resetPeersStates (inv : s.Inv) (notConn : Bool) (now : Instant) :
    (s.resetPeersStates notConn now).Inv := by
  apply MultiMap.all_updateEach _ inv
  intro _ entry valid
  -- a reset entry is valid whatever it was; one left alone stays as valid as it was
  by_cases reset : !notConn || (entry.isConnected now).isNone
  · simpa only [reset, if_true] using Entry.inv_disconnectRoute entry now
  · simpa only [reset, if_false, Bool.false_eq_true] using valid

theorem Inv.configure (inv : s.Inv) (config : TelioRelay.Derp.Config) (now : Instant) :
    (s.configure config now).Inv :=
  Inv.resetPeersStates (s := { s with stunnerSrvList := _ }) inv true now

theorem inv_setNodes (s : State) (nodes : List PublicKey) (now : Instant) :
    (s.setNodes nodes now).Inv :=
  (Database.inv_flush s.db).insert nodes now

theorem Inv.updateNodes (inv : s.Inv) (nodes : List PublicKey) (now : Instant) :
    (s.updateNodes nodes now).Inv := by
  unfold State.updateNodes
  -- the removals keep the database valid key by key, and the insertion adds fresh entries
  have removed : ∀ (keys : List PublicKey) (db : Database), db.Inv →
      (keys.foldl (fun db currNode =>
        if currNode ∈ nodes then db else (db.remove currNode).1) db).Inv := by
    intro keys
    induction keys with
    | nil => exact fun _ valid => valid
    | cons key keys ih =>
      intro db valid
      apply ih
      by_cases kept : key ∈ nodes
      · simpa only [kept, if_true] using valid
      · simpa only [kept, if_false] using valid.remove key
  exact (removed _ s.db inv).insert _ now

theorem Inv.resetNodes (inv : s.Inv) (nodes : List PublicKey) (now : Instant) :
    (s.resetNodes nodes now).Inv := by
  unfold State.resetNodes
  show Database.Inv _
  -- each listed key is disconnected in turn
  induction nodes generalizing s with
  | nil => exact inv
  | cons node nodes ih =>
    exact ih (s := { s with db := _ }) (Database.Inv.disconnectRoute inv node now)

end State

/-- Every event of the task keeps the database valid. -/
theorem State.Inv.step {s : State} (inv : s.Inv) (op : Op) : (step s op).Inv := by
  cases op with
  | configure config now => exact inv.configure config now
  | setNodes nodes now => exact State.inv_setNodes s nodes now
  | updateNodes nodes now => exact inv.updateNodes nodes now
  | resetNodes nodes now => exact inv.resetNodes nodes now
  | handlePeerStates endpoints io =>
    exact state_runOn_of_triple (handlePeerStates_spec endpoints io) inv
  | handleCallMeMaybe pk msg endpoints io =>
    exact state_runOn_of_triple (handleCallMeMaybe_spec pk msg endpoints io) inv
  | handleRxPacket src packet io =>
    exact state_runOn_of_triple (handleRxPacket_spec src packet io) inv
  | handleTxDataPacket payload pk io =>
    exact state_runOn_of_triple (handleTxDataPacket_spec payload pk io) inv

theorem State.inv_new : State.new.Inv := Database.inv_default

open Libtelio.Lib.Run in
/-- Along every run of the task from its start, whatever each handler returns, every entry
passes exactly one of the four checks, the one its route state names; in particular the pass
of `handle_peer_states` never meets a connected entry that `is_connected` rejects. -/
theorem route_checks_match_state (ops : List Op) (pk : PublicKey) (entry : Entry)
    (found : (run step State.new ops).db.entries.get pk = some entry) (now : Instant) :
    (entry.routeChecks now).count true = 1 ∧ entry.routeChecks now = entry.state.expectedChecks ∧
      (entry.state = .connectedByActivate → (entry.isConnected now).isSome) := by
  have inv : (run step State.new ops).Inv :=
    run_invariant State.inv_new (fun _ op valid => valid.step op) ops
  have checks := (MultiMap.All.of_get inv found).routeChecks_eq now
  refine ⟨?_, checks, ?_⟩
  · rw [checks]
    cases entry.state <;> rfl
  · intro connected
    -- `is_connected` is the fourth check
    have fourth := congrArg (fun checks => checks.getD 3 false) checks
    simpa [Entry.routeChecks, RouteState.expectedChecks, connected] using fourth

/-- The peer of the runs below, and the endpoint the stunner reports. -/
def peer : PublicKey := PublicKey.filled 1

def peerEndpoint : SocketAddr := ⟨.v4 ⟨0x0a000002⟩, 51820⟩

/-- The environment of a pass at `now` where every send succeeds. -/
def ioAt (now : Instant) : Io :=
  { now, timestamp := 0, session := 7, controlSendOk := true, socketSendOk := true,
    stunnerSendOk := true }

/-- A periodic check of the peers' states at `now`. -/
def passAt (now : Instant) : Op :=
  .handlePeerStates (fun _ => .ok [peerEndpoint]) (fun _ => ioAt now)

/-- The peer's answer to our call-me-maybe: a responder at `peerEndpoint` in the traversal
session 7 of our pass, with rx peer id 2. -/
def responderCmm : CallMeMaybeMsgDeprecated := ⟨.responder, [peerEndpoint], 7, 2⟩

/-- The peer's pong to a ping of session 7 sent at timestamp 0, to the rx peer id 1 the
database gave it. -/
def pongRx : RxPacket := .pingerDeprecated ⟨⟨1⟩, .pong, 7, 0⟩

/-- A run that finds the route: the node is set, the pass at 1 s sends the call-me-maybe, the
response at 2 s starts the pinging, the pong at 2.5 s gives the endpoint a latency and the pass
at 8 s, past the ping timeout, connects it. -/
def connectingRun : List Op :=
  [.setNodes [peer] 0, passAt 1000000000,
    .handleCallMeMaybe peer responderCmm (.ok [peerEndpoint]) (ioAt 2000000000),
    .handleRxPacket peerEndpoint pongRx { ioAt 2500000000 with timestamp := 3 },
    passAt 8000000000]

open Libtelio.Lib.Run in
theorem route_checks_match_state_connected :
    ∃ entry, (run step State.new connectingRun).db.entries.get peer = some entry ∧
      entry.state = .connectedByActivate ∧
      (entry.routeChecks 9000000000).count true = 1 ∧
      entry.routeChecks 9000000000 = entry.state.expectedChecks ∧
      (entry.state = .connectedByActivate → (entry.isConnected 9000000000).isSome) := by
  obtain ⟨entry, found⟩ : ∃ entry,
      (run step State.new connectingRun).db.entries.get peer = some entry :=
    Option.isSome_iff_exists.mp (by decide)
  have connected : entry.state = .connectedByActivate := by
    have states : ((run step State.new connectingRun).db.entries.get peer).map (·.state) =
        some .connectedByActivate := by decide
    rw [found] at states
    exact Option.some.inj states
  exact ⟨entry, found, connected,
    route_checks_match_state connectingRun peer entry found 9000000000⟩

end UdpHolePunch

end Libtelio.TelioTraversal.Routes
