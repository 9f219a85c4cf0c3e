/- The path selector (`paths/mod.rs`): one `Connection` per peer, which path carries its data
   and which generation stamps it, and the task `State` that drives the connections from
   received packets, path changes, upgrade timers and reconfiguration.

   A connection moves `Init → Transition` on its first GenData packet, `Transition →
   Upgraded` when the upgrade timer expires, `Upgraded → Broken` on a plain Data packet, and
   back to `Init` when reset or reconfigured. The routes behind the paths are components of
   their own: what `update_nodes`, `reset_nodes` and `is_reachable` answer is a parameter
   (`RouteIo`). An upgrade timer is armed or not; its expiry is an event. -/

import Mathlib.Data.List.Basic
import Mathlib.Data.List.AList
import Libtelio.TelioCrypto.Key
import Libtelio.TelioProto.Packet
import Libtelio.TelioTraversal.Routes.Database

set_option autoImplicit false
set_option relaxedAutoImplicit false

namespace Libtelio.TelioTraversal.Paths

open Libtelio.TelioCrypto Libtelio.TelioProto

/-- `telio_model::api_config::PathType`. -/
inductive PathType
  | relay
  | udpHolePunch
  deriving DecidableEq, Repr

/-- `ConnectionState`. -/
inductive ConnectionState
  | init
  | transition
  | upgraded
  | broken
  deriving DecidableEq, Repr

/-- `Connection`; the `HashSet` of active paths is a list, read by membership only. -/
structure Connection where
  path : Option PathType
  generation : Option Generation
  active : List PathType
  state : ConnectionState
  deriving DecidableEq

/-- A `&mut Connection` method. -/
abbrev ConnM := EStateM RouteError Connection

/-- What the routes answer the path selector. -/
structure RouteIo where
  /-- `route.update_nodes(..)` succeeds. -/
  updateNodesOk : PathType → Bool
  /-- `route.reset_nodes(..)` succeeds. -/
  resetNodesOk : PathType → Bool
  /-- `route.is_reachable(pk)`. -/
  reachable : PathType → PublicKey → Bool

namespace Connection

/-- `Connection::new`. -/
def new : Connection := { path := none, generation := none, active := [], state := .init }

/-- `check_against_rx`: whether a received packet goes up, and what it does to the
connection. -/
def checkAgainstRx (msg : DataMsg) (pathType : PathType) : ConnM Bool := do
  let newGen := msg.getGeneration
  match (← get).state with
  | .init =>
    -- start the connection upgrade
    if newGen.isSome then modify fun self => { self with state := .transition }
  | .transition =>
    -- a late packet is dropped
    if newGen.isNone then return false
  | .upgraded =>
    -- the connection needs to be restarted
    if newGen.isNone then
      modify fun self => { self with state := .broken }
      return false
  | .broken => return false
  let nowGen := (← get).generation.getD default
  let newGen := newGen.getD default
  if nowGen.lt newGen then
    -- the peer moved to a newer path: take it
    modify fun self =>
      { self with
        active := insert pathType self.active
        path := some pathType
        generation := some newGen }
  return true

/-- `select_best_path`: the active path of highest priority; whether the path changed. -/
def selectBestPath (prio : List PathType) : ConnM Bool := do
  let self ← get
  let newPath := prio.reverse.find? fun pt => pt ∈ self.active
  if newPath.isNone || self.path == newPath then return false
  match self.path with
  | some _ =>
    if self.generation.isNone && self.state == .init then
      -- first stable connection
      set { self with state := .transition, generation := some (default : Generation).next }
    else
      match self.generation with
      -- ordinary path update
      | some gen => set { self with generation := some gen.next }
      -- logged as an invalid state
      | none => return false
  | none =>
    -- complete reconfiguration
    set { self with state := .init, generation := none }
  modify fun self => { self with path := newPath }
  return true

/-- `Connection::reset`: cleared, then the reachable paths of the routes in order; the first
failing `reset_nodes` ends it. -/
def reset (routes : List PathType) (io : RouteIo) (pk : PublicKey) : ConnM Unit := do
  modify fun self => { self with path := none, active := [], state := .init, generation := none }
  for pt in routes do
    if !io.resetNodesOk pt then throw .setNodesFailed
    if io.reachable pt pk then modify fun self => { self with active := insert pt self.active }
  let _ ← selectBestPath routes

end Connection

/-- The task `State`: the connections, their upgrade timers (armed or not) and the paths in
priority order. -/
structure State where
  prio : List PathType
  connections : AList (fun _ : PublicKey => Connection)
  connsUpgWait : AList (fun _ : PublicKey => Bool)

/-- `MapExt::update`: the keys not in `keys` go, the new ones get `op`, the others stay. -/
def mapUpdate {K V : Type} [DecidableEq K] (map : AList (fun _ : K => V)) (keys : List K)
    (op : K → V) : AList (fun _ : K => V) :=
  let kept := map.keys.foldl (fun map k => if k ∈ keys then map else map.erase k) map
  keys.foldl (fun map k => if k ∈ kept.keys then map else map.insert k (op k)) kept

/-- A pass of `iter_mut` over the connections, each rewritten by `f`. -/
def eachConnection (self : State) (f : PublicKey → Connection → Connection) : State :=
  let visit (conns : AList (fun _ : PublicKey => Connection)) (pk : PublicKey) :=
    match conns.lookup pk with
    | none => conns
    | some c => conns.insert pk (f pk c)
  { self with connections := self.connections.keys.foldl visit self.connections }

namespace State

/-- The task as `Paths::start` leaves it: no connections, no timers. -/
def new (prio : List PathType) : State := { prio, connections := ∅, connsUpgWait := ∅ }

/-- `State::configure`: connections for the new peers, every connection cleared, the reachable
paths of each route in order (the first failing `update_nodes` ends it), then the best path of
each. -/
def configure (self : State) (peers : List PublicKey) (io : RouteIo) :
    State × Except RouteError Unit :=
  let self := { self with
    connections := mapUpdate self.connections peers fun _ => Connection.new,
    connsUpgWait := mapUpdate self.connsUpgWait peers fun _ => false }
  let self := eachConnection self fun _ c =>
    { c with path := none, state := .init, active := [], generation := none }
  let rec addRoutes (self : State) : List PathType → State × Except RouteError Unit
    | [] => (self, .ok ())
    | pt :: rest =>
      if !io.updateNodesOk pt then (self, .error .setNodesFailed)
      else
        let self := eachConnection self fun pk c =>
          if io.reachable pt pk then { c with active := insert pt c.active } else c
        addRoutes self rest
  match addRoutes self self.prio with
  | (self, .error e) => (self, .error e)
  | (self, .ok ()) =>
    let prio := self.prio
    (eachConnection self fun _ c => (Lib.EState.runOn (Connection.selectBestPath prio) c).1,
      .ok ())

/-- `check_conns`: timers follow the states, and broken connections are reset (their
`reset` result dropped). -/
def checkConns (self : State) (io : RouteIo) : State :=
  let prio := self.prio
  let visit (self : State) (pk : PublicKey) : State :=
    match self.connections.lookup pk with
    | none => self
    | some c =>
      match c.state, self.connsUpgWait.lookup pk with
      -- an upgraded or restarted connection needs no timer
      | .init, some true | .upgraded, some true =>
        { self with connsUpgWait := self.connsUpgWait.insert pk false }
      -- a connection in transition gets one
      | .transition, some false => { self with connsUpgWait := self.connsUpgWait.insert pk true }
      | .broken, _ =>
        let (c', _) := Lib.EState.runOn (Connection.reset prio io pk) c
        { self with connections := self.connections.insert pk c' }
      | _, _ => self
  self.connections.keys.foldl visit self

/-- The Rx branch: a packet from `pk` on `pathType`, and whether it goes up. -/
def rx (self : State) (pathType : PathType) (pk : PublicKey) (msg : DataMsg) : State × Bool :=
  match self.connections.lookup pk with
  | none => (self, false)
  | some c =>
    let (c', up) := Lib.EState.runOn (Connection.checkAgainstRx msg pathType) c
    ({ self with connections := self.connections.insert pk c' }, up.toOption.getD false)

/-- The path update branch: a route reports `pk` reachable or not over `pathType`. -/
def pathUpdate (self : State) (pathType : PathType) (pk : PublicKey) (connected : Bool) :
    State :=
  match self.connections.lookup pk with
  | none => self
  | some c =>
    let c := if connected then { c with active := insert pathType c.active }
      else { c with active := c.active.erase pathType }
    let (c', _) := Lib.EState.runOn (Connection.selectBestPath self.prio) c
    { self with connections := self.connections.insert pk c' }

/-- The upgrade timeout branch: the armed timer of `pk` fires. -/
def upgradeExpired (self : State) (pk : PublicKey) : State :=
  match self.connsUpgWait.lookup pk, self.connections.lookup pk with
  | some true, some c =>
    { self with connections := self.connections.insert pk { c with state := .upgraded } }
  | _, _ => self

end State

/-- The branch of the `select!` in `join_pathset_data` that fires. -/
inductive Event
  /-- A packet sent: no connection changes. -/
  | tx
  | rx (pathType : PathType) (pk : PublicKey) (msg : DataMsg)
  | pathUpdate (pathType : PathType) (pk : PublicKey) (connected : Bool)
  | upgradeExpired (pk : PublicKey)

/-- The branch on the state. -/
def State.handle (self : State) : Event → State
  | .tx => self
  | .rx pathType pk msg => (self.rx pathType pk msg).1
  | .pathUpdate pathType pk connected => self.pathUpdate pathType pk connected
  | .upgradeExpired pk => self.upgradeExpired pk

/-- What the task runs: a `configure` from the update channel, or one
`join_pathset_data`, which checks the connections and then takes one branch. -/
inductive Op
  | configure (peers : List PublicKey) (io : RouteIo)
  | poll (io : RouteIo) (event : Event)

/-- One operation of the task. -/
def step (self : State) : Op → State
  | .configure peers io => (self.configure peers io).1
  | .poll io event => (self.checkConns io).handle event

end Libtelio.TelioTraversal.Paths
