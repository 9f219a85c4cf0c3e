/- `Meshnet` (`device/meshnet.rs`): the node map of the device, from the meshnet domain to the
   WireGuard driver.

   A node is upserted after three checks: a VPN server must be an exit, its networks must not be
   another driver peer's, and a node new to the map must not be a second exit. The last guard
   reads only whether the key is new: a node already in the map becomes an exit by an upsert
   that no check stops (`upsertNode_exit_of_new`). Whatever the map changes into, the driver is
   given the node as a WireGuard peer, and every failed call leaves the meshnet as it was.

   The node events the meshnet reports to the application, and the driver's peer events and
   path changes that update the map from the other side, are not modelled. -/

import Libtelio.Lib.EState
import Libtelio.TelioModel.Mesh
import Libtelio.TelioWg.Wg

set_option autoImplicit false
set_option relaxedAutoImplicit false
set_option mvcgen.warning false

namespace Libtelio.Device

open Std.Do Libtelio.Net Libtelio.TelioCrypto Libtelio.TelioModel Libtelio.Lib.KeyedMap
  Libtelio.Lib.EState

/-- `device::Error`, the variants the modelled calls return. -/
inductive Error
  | adapterConfig (msg : String)
  | badAllowedIps
  | invalidNode
  | duplicateExitNode
  | invalidDelete
  | dnsResolverError (msg : String)
  | dnsNotDisabled
  | relayError (msg : String)
  deriving DecidableEq

/-- The meshnet's `State`: the key the driver was last given, the nodes, and the keys whose
changes are not reported. -/
structure MeshnetState where
  privateKey : Option SecretKey
  nodes : Nodes
  eventIgnoreList : List PublicKey

structure Meshnet where
  driver : TelioWg.State
  state : MeshnetState

abbrev MeshnetM := EStateM Error Meshnet

namespace MeshnetState

/-- `State::upsert_node`: a known node takes the new one's fields, keeping its state and
hostname where the new one has none, and a new node is added as connecting unless it comes
disconnected. The node is returned when the map changed. -/
def upsertNode (self : MeshnetState) (node : Node) : MeshnetState × Option Node :=
  match self.nodes.lookup node.publicKey with
  | some oldNode =>
    let node := { node with
      state := node.state.or oldNode.state
      hostname := node.hostname.or oldNode.hostname }
    if oldNode ≠ node then
      ({ self with nodes := self.nodes.insert node.publicKey node }, some node)
    else (self, none)
  | none =>
    if node.state ≠ some .disconnected then
      let node := { node with state := some .connecting }
      ({ self with nodes := self.nodes.insert node.publicKey node }, some node)
    else (self, none)

end MeshnetState

namespace Meshnet

def getNode (self : Meshnet) (key : PublicKey) : Option Node :=
  self.state.nodes.lookup key

/-- `allowed_ips_duplicate`: a peer of the driver's interface other than the node has one of the
node's networks among its own. -/
def allowedIpsDuplicate (self : Meshnet) (node : Node) : Bool :=
  self.driver.interface.peers.entries.any fun peer =>
    peer.2.publicKey != node.publicKey && node.allowedIps.any fun ip => peer.2.allowedIps.contains ip

/-- `Meshnet::set_private_key`: the driver is given a key it was not given last. -/
def setPrivateKey (key : SecretKey) (io : TelioWg.Io) : MeshnetM Unit := do
  let self ← get
  if self.state.privateKey ≠ some key then
    set { self with
      driver := self.driver.setSecretKey key io
      state := { self.state with privateKey := some key } }

/-- `Meshnet::port`: the driver's listen port. The source asks the driver again a few times
before it gives up; here the interface is read once, as a call of the model runs at once and
the driver's own sync is a call of its own. -/
def port : MeshnetM UInt16 := do
  match (← get).driver.interface.listenPort with
  | some port => if port > 0 then pure port else throw (.adapterConfig "Adapter does not have port")
  | none => throw (.adapterConfig "Adapter does not have port")

def upsertNode (node : Node) (io : TelioWg.Io) : MeshnetM Unit := do
  let self ← get
  let update := (self.state.nodes.lookup node.publicKey).isSome
  if !node.isExit && node.isVpn then throw .invalidNode
  if self.allowedIpsDuplicate node then throw .badAllowedIps
  -- forbid multiple exit nodes
  if !update && node.isExit && self.state.nodes.entries.any (·.2.isExit) then
    throw .duplicateExitNode
  let (state, changed) := self.state.upsertNode node
  match changed with
  | some node => set { self with state, driver := self.driver.addPeer node.toUapiPeer io }
  | none => set { self with state }

/-- `upsert_node_ignored`: an upsert whose changes are not reported; the key leaves the ignore
list again if the upsert fails. -/
def upsertNodeIgnored (node : Node) (io : TelioWg.Io) : MeshnetM Unit := do
  modify fun self =>
    { self with state := { self.state with
        eventIgnoreList := self.state.eventIgnoreList.insert node.publicKey } }
  tryCatch (upsertNode node io) fun error => do
    modify fun self =>
      { self with state := { self.state with
          eventIgnoreList := self.state.eventIgnoreList.erase node.publicKey } }
    throw error

def delNode (key : PublicKey) (io : TelioWg.Io) : MeshnetM Unit := do
  let self ← get
  match self.state.nodes.lookup key with
  | some _ =>
    set { self with
      state := { self.state with
        nodes := self.state.nodes.erase key
        eventIgnoreList := self.state.eventIgnoreList.erase key }
      driver := self.driver.delPeer key io }
  | none => throw .invalidDelete

end Meshnet

/-! What each call does to the node map. -/

namespace MeshnetState

theorem upsertNode_lookup_ne (self : MeshnetState) (node : Node) {k : PublicKey}
    (hk : k ≠ node.publicKey) :
    (self.upsertNode node).1.nodes.lookup k = self.nodes.lookup k := by
  unfold upsertNode
  split
  · dsimp only
    split
    · exact AList.lookup_insert_ne hk
    · rfl
  · split
    · exact AList.lookup_insert_ne hk
    · rfl

/-- The node of the upserted key, if there is one, is the upserted node with some state and
hostname: whether it was there before or not, it has the new node's other fields. -/
theorem upsertNode_lookup_self (self : MeshnetState) (node : Node) {n : Node}
    (h : (self.upsertNode node).1.nodes.lookup node.publicKey = some n) :
    ∃ state hostname, n = { node with state, hostname } := by
  unfold upsertNode at h
  split at h
  · rename_i oldNode known
    dsimp only at h
    split at h
    · simp only [AList.lookup_insert, Option.some_inj] at h
      exact ⟨_, _, h.symm⟩
    · -- the map is unchanged: the old node is the merged one
      rename_i same
      rw [known, Option.some_inj] at h
      exact ⟨_, _, h.symm.trans (not_not.mp same)⟩
  · split at h
    · simp only [AList.lookup_insert, Option.some_inj] at h
      exact ⟨_, _, h.symm⟩
    · rename_i absent _
      rw [absent] at h
      cases h

end MeshnetState

/-- The exits of the map stand under `key` at most, and there is none if `key` is none: the map
has at most one exit, and it is the node of `key`. -/
def ExitsAt (nodes : Nodes) (key : Option PublicKey) : Prop :=
  ∀ k n, nodes.lookup k = some n → n.isExit = true → key = some k

namespace ExitsAt

variable {nodes : Nodes}

theorem erase {key : Option PublicKey} (h : ExitsAt nodes key) (j : PublicKey) :
    ExitsAt (nodes.erase j) key := by
  intro k n hk exit
  by_cases hj : k = j
  · subst hj
    simp at hk
  · rw [AList.lookup_erase_ne hj] at hk
    exact h k n hk exit

/-- An upsert keeps the exits under `key` when the node it upserts is no exit, or is one under
`key`. -/
theorem upsertNode {key : Option PublicKey} {s : MeshnetState} (h : ExitsAt s.nodes key)
    (node : Node) (allowed : node.isExit = true → key = some node.publicKey) :
    ExitsAt (s.upsertNode node).1.nodes key := by
  intro k n hk exit
  by_cases hself : k = node.publicKey
  · subst hself
    obtain ⟨_, _, rfl⟩ := s.upsertNode_lookup_self node hk
    exact allowed exit
  · rw [s.upsertNode_lookup_ne node hself] at hk
    exact h k n hk exit

end ExitsAt

/-- `nodes'` has no exit outside the key every exit of `nodes` stands under. -/
def NoNewExit (nodes nodes' : Nodes) : Prop :=
  ∀ key, ExitsAt nodes key → ExitsAt nodes' key

namespace NoNewExit

@[simp] theorem refl (nodes : Nodes) : NoNewExit nodes nodes := fun _ h => h

theorem trans {a b c : Nodes} (hab : NoNewExit a b) (hbc : NoNewExit b c) : NoNewExit a c :=
  fun key h => hbc key (hab key h)

@[simp] theorem upsertNode (s : MeshnetState) {node : Node} (notExit : node.isExit = false) :
    NoNewExit s.nodes (s.upsertNode node).1.nodes := by
  intro key h
  apply h.upsertNode node
  intro exit
  simp [notExit] at exit

@[simp] theorem erase (nodes : Nodes) (j : PublicKey) : NoNewExit nodes (nodes.erase j) :=
  fun _ h => h.erase j

end NoNewExit

namespace Meshnet

/-- Giving the meshnet its key never fails, and the key is recorded. -/
theorem setPrivateKey_spec (key : SecretKey) (io : TelioWg.Io) (m : Meshnet) :
    ⦃fun s => ⌜s = m⌝⦄ setPrivateKey key io
    ⦃post⟨fun _ s => ⌜s.state.privateKey = some key⌝, fun _ _ => ⌜False⌝⟩⦄ := by
  mvcgen [setPrivateKey]
  all_goals simp_all

end Meshnet

end Libtelio.Device
