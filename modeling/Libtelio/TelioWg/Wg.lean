/- The task of `DynamicWg` (`wg.rs`): the interface it last saw, the events it has sent, and
   `update`, through which every change goes.

   `update` diffs the interface against the target one by key, sends a `Disconnected` for each
   removed peer, a `Connecting` (and a `Connected` if it is) for each new one, and a
   `Connecting` or `Connected` for a kept peer whose `connected()` changed; then, for the API
   calls, the set command that takes the adapter there. The event channel is open for a whole
   call or closed for it (its receiver dropped), and what the adapter answers is an input. The
   analytics channel is not modelled. -/

import Libtelio.TelioWg.Uapi

set_option autoImplicit false
set_option relaxedAutoImplicit false

namespace Libtelio.TelioWg

open Libtelio.Net Libtelio.TelioCrypto

/-- `DiffKeys`: the keys only in the old interface, only in the new one, and in both. -/
structure DiffKeys where
  deleteKeys : List PublicKey
  insertKeys : List PublicKey
  updateKeys : List PublicKey

/-- What one call meets: whether the event channel takes events, and the adapter's response
to the command the call sends, if it sends one. -/
structure Io where
  eventsOpen : Bool
  response : Response

/-- The task `State`: the interface, the events sent so far, the commands the adapter got,
and the failure count of its UAPI calls. -/
structure State where
  interface : Interface
  events : List Event
  commands : List Cmd
  uapiFailedLastCall : Bool
  uapiFailCounter : Int32

namespace State

/-- The task as `start_with` leaves it. -/
def new : State := ⟨Interface.empty, [], [], false, 0⟩

/-- `uapi_request`: the command goes to the adapter, and its errno counts failures. -/
def uapiRequest (self : State) (cmd : Cmd) (ret : Response) : State × Response :=
  let self := { self with commands := self.commands ++ [cmd] }
  -- the failures are counted until one call succeeds
  if ret.errno == 0 then ({ self with uapiFailedLastCall := false, uapiFailCounter := 0 }, ret)
  else
    ({ self with uapiFailedLastCall := true, uapiFailCounter := self.uapiFailCounter + 1 }, ret)

@[simp] theorem uapiRequest_interface (self : State) (cmd : Cmd) (ret : Response) :
    (self.uapiRequest cmd ret).1.interface = self.interface := by
  unfold uapiRequest; split <;> rfl

@[simp] theorem uapiRequest_events (self : State) (cmd : Cmd) (ret : Response) :
    (self.uapiRequest cmd ret).1.events = self.events := by
  unfold uapiRequest; split <;> rfl

@[simp] theorem uapiRequest_response (self : State) (cmd : Cmd) (ret : Response) :
    (self.uapiRequest cmd ret).2 = ret := by
  unfold uapiRequest; split <;> rfl

/-- `update_calculate_changes`. -/
def updateCalculateChanges (self : State) (target : Interface) : DiffKeys :=
  let fKeys := self.interface.peers.keys
  let tKeys := target.peers.keys
  { deleteKeys := fKeys.filter (· ∉ tKeys)
    insertKeys := tKeys.filter (· ∉ fKeys)
    updateKeys := fKeys.filter (· ∈ tKeys) }

end State

/-- The events of one update, in the order the three loops of
`update_send_notification_events` send them. -/
def notificationEvents (source target : Interface) (diffKeys : DiffKeys) : List Event :=
  -- all disconnects
  diffKeys.deleteKeys.flatMap (fun key =>
    match source.peers.lookup key with
    | none => []
    | some peer => [⟨.disconnected, peer⟩]) ++
  -- all new connections
  diffKeys.insertKeys.flatMap (fun key =>
    match target.peers.lookup key with
    | none => []
    | some peer =>
      ⟨.connecting, peer⟩ :: if peer.connected then [⟨.connected, peer⟩] else []) ++
  -- the updates
  diffKeys.updateKeys.flatMap fun key =>
    match source.peers.lookup key, target.peers.lookup key with
    | some old, some new =>
      if old.connected && !new.connected then [⟨.connecting, new⟩]
      else if !old.connected && new.connected then [⟨.connected, new⟩]
      else []
    | _, _ => []

/-- `try_send` of each event in turn, stopping at the first that fails: the events that got
out, and whether all did. -/
def sendEach (eventsOpen : Bool) : List Event → List Event × Bool
  | [] => ([], true)
  | event :: rest =>
    if eventsOpen then
      let (sent, ok) := sendEach eventsOpen rest
      (event :: sent, ok)
    else ([], false)

namespace State

/-- `update_send_notification_events`. -/
def updateSendNotificationEvents (self : State) (target : Interface) (diffKeys : DiffKeys)
    (eventsOpen : Bool) : List Event × Bool :=
  sendEach eventsOpen (notificationEvents self.interface target diffKeys)

/-- `update_construct_set_device`: a removal for each deleted key, then each target peer,
update-only if it was there, replacing its allowed IPs if they changed. -/
def updateConstructSetDevice (self : State) (target : Interface) (diffKeys : DiffKeys) :
    SetDevice :=
  let source := self.interface
  let removedPeers := source.peers.keys.filter (· ∈ diffKeys.deleteKeys) |>.map fun pubkey =>
    (SetPeer.fromPublicKey pubkey).setRemove true
  let peers := target.peers.entries.map fun ⟨pubkey, peer⟩ =>
    ((SetPeer.ofPeer peer).setUpdateOnly (pubkey ∈ diffKeys.updateKeys)).setReplaceAllowedIps
      (((source.peers.lookup pubkey).map fun p => p.allowedIps != peer.allowedIps).getD false)
  { privateKey := target.privateKey, listenPort := target.listenPort,
    fwmark := if target.fwmark = 0 then none else some target.fwmark,
    replacePeers := none, peers := removedPeers ++ peers }

/-- `update`: nothing for the interface it has; otherwise the events, then for `push` the set
command, and the target becomes the interface once the events are out. -/
def update (self : State) (target : Interface) (push : Bool) (io : Io) : State × Bool :=
  if self.interface.beq target then (self, false)
  else
    let diffKeys := self.updateCalculateChanges target
    let (sent, ok) := self.updateSendNotificationEvents target diffKeys io.eventsOpen
    let self' := { self with events := self.events ++ sent }
    if !ok then (self', false)
    else
      let (self', success) :=
        if push then
          let dev := self.updateConstructSetDevice target diffKeys
          let (self', ret) := self'.uapiRequest (.set dev) io.response
          (self', ret.errno == 0)
        else (self', true)
      ({ self' with interface := target }, success)

/-- `sync`: the adapter's interface, if it reports one, taken without a set command. -/
def sync (self : State) (io : Io) : State :=
  let request := self.uapiRequest .get io.response
  match request.2.interface with
  | some target => (request.1.update target false io).1
  | none => request.1

/-- `DynamicWg::set_secret_key`. -/
def setSecretKey (self : State) (key : SecretKey) (io : Io) : State :=
  (self.update { self.interface with privateKey := some key } true io).1

/-- `DynamicWg::set_fwmark`. -/
def setFwmark (self : State) (fwmark : UInt32) (io : Io) : State × Bool :=
  self.update { self.interface with fwmark } true io

/-- `DynamicWg::add_peer`: a peer already there keeps its handshake time and byte counts. -/
def addPeer (self : State) (peer : Peer) (io : Io) : State :=
  let target := self.interface
  let peer := match target.peers.lookup peer.publicKey with
    | some oldPeer =>
      { peer with timeSinceLastHandshake := oldPeer.timeSinceLastHandshake,
                  rxBytes := oldPeer.rxBytes, txBytes := oldPeer.txBytes }
    | none => peer
  (self.update { target with peers := target.peers.insert peer.publicKey peer } true io).1

/-- `DynamicWg::del_peer`. -/
def delPeer (self : State) (key : PublicKey) (io : Io) : State :=
  (self.update { self.interface with peers := self.interface.peers.erase key } true io).1

end State

/-- The calls that reach the task: the four API calls and the periodic sync. -/
inductive Op
  | setSecretKey (key : SecretKey) (io : Io)
  | setFwmark (fwmark : UInt32) (io : Io)
  | addPeer (peer : Peer) (io : Io)
  | delPeer (key : PublicKey) (io : Io)
  | sync (io : Io)

/-- One call. -/
def step (self : State) : Op → State
  | .setSecretKey key io => self.setSecretKey key io
  | .setFwmark fwmark io => (self.setFwmark fwmark io).1
  | .addPeer peer io => self.addPeer peer io
  | .delPeer key io => self.delPeer key io
  | .sync io => self.sync io

end Libtelio.TelioWg
