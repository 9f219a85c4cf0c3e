/- `device::Runtime` (`device/mod.rs`): the calls of the device that change the meshnet, the
   exit node, the DNS resolver and the firewall's whitelists.

   Each call is a method of `EStateM` over the whole runtime and keeps what it wrote before an
   early error, as the source's `?` does. What the runtime's collaborators answer during a call
   (the WireGuard task's channel and adapter, the relay, the DNS resolver) is the call's `Env`:
   every answer is possible, so a statement over all environments covers them all. The resolver
   is otherwise outside the model; the relay is the model of `Device.Relay`, the WireGuard driver
   that of `TelioWg.Wg`, and the firewall that of `TelioFirewall.Firewall`. -/

import Libtelio.Device.Meshnet
import Libtelio.Device.Relay
import Libtelio.Lib.Run
import Libtelio.TelioFirewall.Firewall

set_option autoImplicit false
set_option relaxedAutoImplicit false
set_option mvcgen.warning false

namespace Libtelio.Device

open Std.Do Libtelio.Net Libtelio.TelioCrypto Libtelio.TelioModel Libtelio.TelioFirewall
  Libtelio.Lib.EState

/-- `DeviceConfig`, with the key of the device; the adapter, name and tunnel are not
modelled. -/
structure DeviceConfig where
  privateKey : SecretKey

/-- `RequestedState`: what the client last asked for. -/
structure RequestedState where
  deviceConfig : DeviceConfig
  meshnetConfig : Option Config
  cachedNodes : Nodes
  exitNode : Option ExitNode
  upstreamServers : Option (List IpAddr)

/-- `RequestedState::set_mesh_config`: keep the configuration and its nodes, and give back the
nodes of the previous one. -/
def RequestedState.setMeshConfig (self : RequestedState) (config : Option Config) :
    RequestedState × Nodes :=
  ({ self with
      meshnetConfig := config
      cachedNodes := (config.map Map.ofConfig).getD ∅ },
    self.cachedNodes)

/-- `LocalDnsResolver` as the runtime uses it: the key of its WireGuard peer, the port of its
socket, and whether its networks follow the exit node. -/
structure LocalDnsResolver where
  publicKey : PublicKey
  socketPort : UInt16
  autoSwitchIps : Bool

namespace LocalDnsResolver

/-- `get_peer`: the resolver's peer, at its socket on the loopback address. -/
def getPeer (self : LocalDnsResolver) (allowedIps : List IpNetwork) : TelioWg.Peer :=
  { publicKey := self.publicKey
    endpoint := some ⟨.v4 (Ipv4Addr.new 127 0 0 1), self.socketPort⟩
    persistentKeepaliveInterval := none
    allowedIps
    rxBytes := none
    txBytes := none
    timeSinceLastHandshake := none }

def getDefaultDnsAllowedIps : List IpNetwork :=
  [IpNetwork.ofIpAddr (.v4 (Ipv4Addr.new 100 64 0 2)),
    IpNetwork.ofIpAddr (.v4 (Ipv4Addr.new 100 64 0 3))]

def getExitConnectedDnsAllowedIps : List IpNetwork :=
  [IpNetwork.ofIpAddr (.v4 (Ipv4Addr.new 100 64 0 2))]

end LocalDnsResolver

/-- What the collaborators of the runtime answer during one call. -/
structure Env where
  wg : TelioWg.Io
  relay : RelayIo
  dnsUpsert : Except String Unit
  dnsForward : Except String Unit
  dnsNew : Except String LocalDnsResolver

structure Runtime where
  meshnet : Meshnet
  dns : Option LocalDnsResolver
  relay : Relay
  firewall : Firewall
  requestedState : RequestedState

abbrev RuntimeM := EStateM Error Runtime

namespace Runtime

/-- `Runtime::start` with a driver that answers `io`: the meshnet gives the driver the
device's key, and the relay keeps it with no client running. -/
def start (config : DeviceConfig) (io : TelioWg.Io) : Runtime :=
  let meshnet := (runOn (Meshnet.setPrivateKey config.privateKey io)
    ⟨TelioWg.State.new, ⟨none, ∅, []⟩⟩).1
  ⟨meshnet, none, Relay.start config.privateKey, Firewall.new, ⟨config, none, ∅, none, none⟩⟩

/-- A runtime started with `DeviceConfig::default()`, whose key is zero, and a driver that
takes every call. -/
def new : Runtime :=
  start ⟨SecretKey.filled 0⟩ ⟨true, ⟨0, none⟩⟩

/-- A call of the meshnet, `self.meshnet.…().await`. -/
def meshnetCall {α : Type} (x : MeshnetM α) : RuntimeM α :=
  zoom (·.meshnet) (fun self meshnet => { self with meshnet }) x

/-- A call of the relay, its error converted to `Error::RelayError`. -/
def relayCall {α : Type} (x : RelayM α) : RuntimeM α :=
  zoom (·.relay) (fun self relay => { self with relay }) (mapError Error.relayError x)

/-- A call of the DNS resolver, its error mapped to `Error::DnsResolverError`. -/
def dnsCall (answer : Except String Unit) : RuntimeM Unit :=
  match answer with
  | .ok () => pure ()
  | .error msg => throw (.dnsResolverError msg)

def modifyFirewall (f : Firewall → Firewall) : RuntimeM Unit :=
  modify fun self => { self with firewall := f self.firewall }

def modifyRequestedState (f : RequestedState → RequestedState) : RuntimeM Unit :=
  modify fun self => { self with requestedState := f self.requestedState }

/-- `upsert_dns_peers`: a running resolver takes the names of the configuration. -/
def upsertDnsPeers (env : Env) : RuntimeM Unit := do
  if (← get).dns.isSome then dnsCall env.dnsUpsert

/-- `reconfigure_dns_peer`: a resolver that follows the exit node gets new networks and new
servers to forward to. -/
def reconfigureDnsPeer (dns : LocalDnsResolver) (allowedIps : List IpNetwork) (env : Env) :
    RuntimeM Unit := do
  if dns.autoSwitchIps then
    meshnetCall (Meshnet.upsertNodeIgnored (Node.ofUapiPeer (dns.getPeer allowedIps)) env.wg)
    dnsCall env.dnsForward

/-- `get_exit_node_type` is `Meshnet`: the exit node is a peer of the configuration. -/
def exitNodeIsMeshnet (self : Runtime) : Bool :=
  match self.requestedState.exitNode with
  | some exitNode => (self.requestedState.cachedNodes.lookup exitNode.publicKey).isSome
  | none => false

def startDns (dnsServers : List IpAddr) (env : Env) : RuntimeM Unit := do
  match (← get).dns with
  | some dns =>
    dnsCall env.dnsForward
    if dns.autoSwitchIps && (← get).exitNodeIsMeshnet then
      meshnetCall (Meshnet.upsertNodeIgnored
        (Node.ofUapiPeer (dns.getPeer LocalDnsResolver.getDefaultDnsAllowedIps)) env.wg)
  | none =>
    let _ ← meshnetCall Meshnet.port
    let dns ← match env.dnsNew with
      | .ok dns => pure dns
      | .error msg => throw (.dnsResolverError msg)
    meshnetCall (Meshnet.upsertNodeIgnored
      (Node.ofUapiPeer (dns.getPeer LocalDnsResolver.getDefaultDnsAllowedIps)) env.wg)
    modify fun self => { self with dns := some dns }
  upsertDnsPeers env
  modifyRequestedState fun rs => { rs with upstreamServers := some dnsServers }

/-- `stop_dns`: the resolver is taken out before its node is deleted. -/
def stopDns (env : Env) : RuntimeM Unit := do
  match (← get).dns with
  | some dns =>
    modify fun self => { self with dns := none }
    meshnetCall (Meshnet.delNode dns.publicKey env.wg)
  | none => pure ()

def firewallRemoveNode (node : Node) : RuntimeM Unit :=
  modifyFirewall fun fw => node.allowedIps.foldl Firewall.removeFromNetworkWhitelist fw

/-- `firewall_upsert_node`: a node's networks are whitelisted if it accepts incoming
connections, and taken off the whitelist otherwise. -/
def firewallUpsertNode (node : Node) : RuntimeM Unit :=
  if node.allowIncomingConnections then
    modifyFirewall fun fw => node.allowedIps.foldl Firewall.addToNetworkWhitelist fw
  else firewallRemoveNode node

/-- `update_map`: delete the nodes the new map drops, then upsert each of its nodes, except a
node that is an exit at the moment. -/
def updateMap (map : Option Nodes) (oldNodeMap : Nodes) (env : Env) : RuntimeM Unit := do
  let target := map.getD ∅
  for entry in oldNodeMap.entries.filter (fun entry => entry.1 ∉ target) do
    meshnetCall (Meshnet.delNode entry.1 env.wg)
    firewallRemoveNode entry.2
  for entry in target.entries do
    if ((← get).meshnet.getNode entry.1).any (·.isExit) then continue
    meshnetCall (Meshnet.upsertNode entry.2 env.wg)
    firewallUpsertNode entry.2

/-- `From<&Config> for RelayConfig`: the keys of the configuration's peers. -/
def relayConfig (c : Config) : RelayConfig :=
  ⟨(c.peers.getD []).map (·.base.publicKey)⟩

/-- `set_config`: the configuration is stored first; then the relay and the resolver take it,
and the node map follows it. -/
def setConfig (config : Option Config) (env : Env) : RuntimeM Unit := do
  let oldNodeMap ← modifyGet fun self =>
    let (requestedState, old) := self.requestedState.setMeshConfig config
    (old, { self with requestedState })
  let map ← match config with
    | some config =>
      let meshmap := Map.ofConfig config
      let _ ← meshnetCall Meshnet.port
      let endpoints ← relayCall (Relay.setConfig (some (relayConfig config)) env.relay)
      upsertDnsPeers env
      pure (some (Map.setRelayEndpoints meshmap endpoints))
    | none =>
      let _ ← relayCall (Relay.setConfig none env.relay)
      upsertDnsPeers env
      pure none
  updateMap map oldNodeMap env

/-- `connect_exit_node`: a peer of the configuration becomes the exit at its mesh endpoints,
any other node is a VPN server whose key is whitelisted. The exit node is recorded before the
meshnet is asked to upsert it. -/
def connectExitNode (exitNode : ExitNode) (env : Env) : RuntimeM Unit := do
  let node := Node.ofExitNode exitNode
  let self ← get
  let node ← match self.requestedState.cachedNodes.lookup node.publicKey with
    | some meshNode => do
      -- forward DNS traffic to the exit peer's resolver
      match self.dns with
      | some dns => reconfigureDnsPeer dns LocalDnsResolver.getExitConnectedDnsAllowedIps env
      | none => pure ()
      pure { node with isVpn := false, endpoints := meshNode.endpoints }
    | none => do
      modifyFirewall fun fw => fw.addToPeerWhitelist node.publicKey
      pure { node with isVpn := true }
  modifyRequestedState fun rs => { rs with exitNode := some exitNode }
  meshnetCall (Meshnet.upsertNode node env.wg)

/-- `disconnect_exit_nodes`: a mesh exit is demoted to its peer's node, a VPN server deleted and
its key taken off the whitelist; the exit node is forgotten only when that succeeded. -/
def disconnectExitNodes (env : Env) : RuntimeM Unit := do
  let self ← get
  match self.requestedState.exitNode with
  | some exitNode =>
    match self.requestedState.cachedNodes.lookup exitNode.publicKey with
    | some node =>
      meshnetCall (Meshnet.upsertNode node env.wg)
      match self.dns, self.requestedState.upstreamServers with
      | some dns, some _ => reconfigureDnsPeer dns LocalDnsResolver.getDefaultDnsAllowedIps env
      | _, _ => pure ()
    | none =>
      meshnetCall (Meshnet.delNode exitNode.publicKey env.wg)
      modifyFirewall fun fw => fw.removeFromPeerWhitelist exitNode.publicKey
    modifyRequestedState fun rs => { rs with exitNode := none }
  | none => pure ()

/-- `set_private_key`: refused while the resolver runs; the relay's own error is dropped. -/
def setPrivateKey (privateKey : SecretKey) (env : Env) : RuntimeM Unit := do
  if (← get).dns.isSome then throw .dnsNotDisabled
  modifyRequestedState fun rs => { rs with deviceConfig := { rs.deviceConfig with privateKey } }
  meshnetCall (Meshnet.setPrivateKey privateKey env.wg)
  tryCatch (relayCall (Relay.setPrivateKey privateKey)) fun _ => pure ()

def getPrivateKey : RuntimeM SecretKey :=
  return (← get).requestedState.deviceConfig.privateKey

/-- `get_derp_config`: the configuration of the relay's running client. -/
def getDerpConfig : RuntimeM RelayRuntime :=
  relayCall Relay.getRelayConfig

def disconnectExitNode (nodeKey : PublicKey) (env : Env) : RuntimeM Unit := do
  match (← get).requestedState.exitNode with
  | some exitNode => if exitNode.publicKey = nodeKey then disconnectExitNodes env else pure ()
  | none => pure ()

end Runtime

/-! What the calls of the meshnet and the relay do to the runtime: they leave every other part
of it. -/

namespace Runtime

/-- `r` is `r0` but for its meshnet. -/
def MeshnetOnly (r0 r : Runtime) : Prop :=
  r.dns = r0.dns ∧ r.relay = r0.relay ∧ r.firewall = r0.firewall ∧
    r.requestedState = r0.requestedState

/-- `r` is `r0` but for its relay. -/
def RelayOnly (r0 r : Runtime) : Prop :=
  r.meshnet = r0.meshnet ∧ r.dns = r0.dns ∧ r.firewall = r0.firewall ∧
    r.requestedState = r0.requestedState

theorem meshnetCall_spec {α : Type} {x : MeshnetM α} {Q : α → Meshnet → Prop}
    {R : Error → Meshnet → Prop} (r0 : Runtime)
    (spec : ⦃fun m => ⌜m = r0.meshnet⌝⦄ x ⦃post⟨fun a m => ⌜Q a m⌝, fun e m => ⌜R e m⌝⟩⦄) :
    ⦃fun r => ⌜r = r0⌝⦄ meshnetCall x
    ⦃post⟨fun a r => ⌜MeshnetOnly r0 r ∧ Q a r.meshnet⌝,
      fun e r => ⌜MeshnetOnly r0 r ∧ R e r.meshnet⌝⟩⦄ := by
  apply triple_of_runOn
  rintro r rfl
  have outcome := runOn_of_triple (zoom_spec (·.meshnet)
    (fun self meshnet => { self with meshnet }) r spec) rfl
  rw [meshnetCall]
  split at outcome
  all_goals obtain ⟨m, rfl, holds⟩ := outcome
  all_goals exact ⟨⟨rfl, rfl, rfl, rfl⟩, holds⟩

/-- A relay call fails with the relay's error, converted. -/
theorem relayCall_spec {α : Type} {x : RelayM α} {Q : α → Relay → Prop}
    {R : String → Relay → Prop} (r0 : Runtime)
    (spec : ⦃fun t => ⌜t = r0.relay⌝⦄ x ⦃post⟨fun a t => ⌜Q a t⌝, fun e t => ⌜R e t⌝⟩⦄) :
    ⦃fun r => ⌜r = r0⌝⦄ relayCall x
    ⦃post⟨fun a r => ⌜RelayOnly r0 r ∧ Q a r.relay⌝,
      fun e r => ⌜RelayOnly r0 r ∧ ∃ msg, e = .relayError msg ∧ R msg r.relay⌝⟩⦄ := by
  apply triple_of_runOn
  rintro r rfl
  have outcome := runOn_of_triple spec (s := r.relay) rfl
  rw [relayCall, runOn_zoom, runOn_mapError]
  split at outcome
  all_goals rename_i t _ ran
  all_goals simp only [ran]
  · exact ⟨⟨rfl, rfl, rfl, rfl⟩, outcome⟩
  · exact ⟨⟨rfl, rfl, rfl, rfl⟩, _, rfl, outcome⟩

theorem relaySetPrivateKey_call_spec (privateKey : SecretKey) (r0 : Runtime) :
    ⦃fun r => ⌜r = r0⌝⦄ relayCall (Relay.setPrivateKey privateKey)
    ⦃post⟨fun _ r => ⌜RelayOnly r0 r ∧ r0.relay.rt.isSome ∧
        r.relay = ⟨r0.relay.rt.map fun rt => { rt with secretKey := privateKey }, privateKey⟩⌝,
      fun e r => ⌜RelayOnly r0 r ∧ ∃ msg, e = .relayError msg ∧
        r0.relay.rt = none ∧ r.relay = r0.relay ∧ msg = Relay.runtimeNotStarted⌝⟩⦄ :=
  relayCall_spec r0 (Relay.setPrivateKey_spec privateKey r0.relay)

theorem meshnetSetPrivateKey_call_spec (key : SecretKey) (io : TelioWg.Io) (r0 : Runtime) :
    ⦃fun r => ⌜r = r0⌝⦄ meshnetCall (Meshnet.setPrivateKey key io)
    ⦃post⟨fun _ r => ⌜MeshnetOnly r0 r ∧ r.meshnet.state.privateKey = some key⌝,
      fun _ r => ⌜MeshnetOnly r0 r ∧ False⌝⟩⦄ :=
  meshnetCall_spec r0 (Meshnet.setPrivateKey_spec key io r0.meshnet)

theorem getPrivateKey_result (r : Runtime) :
    (runOn getPrivateKey r).2 = .ok r.requestedState.deviceConfig.privateKey := rfl

/-- `get_derp_config` answers with the running client's configuration. -/
theorem getDerpConfig_ok {r : Runtime} {rt : RelayRuntime}
    (got : (runOn getDerpConfig r).2 = .ok rt) : r.relay.rt = some rt := by
  obtain ⟨_, _, ⟨_ | _, _⟩, _, _⟩ := r
  · cases got
  · cases got
    rfl

end Runtime

/-- The calls: those of the device's API that change the meshnet, and the periodic sync of the
WireGuard task, which changes what the driver reports. -/
inductive Op
  | setPrivateKey (privateKey : SecretKey) (env : Env)
  | setConfig (config : Option Config) (env : Env)
  | connectExitNode (exitNode : ExitNode) (env : Env)
  | disconnectExitNode (nodeKey : PublicKey) (env : Env)
  | disconnectExitNodes (env : Env)
  | startDns (dnsServers : List IpAddr) (env : Env)
  | stopDns (env : Env)
  | driverSync (io : TelioWg.Io)

def Op.call : Op → RuntimeM Unit
  | .setPrivateKey privateKey env => Runtime.setPrivateKey privateKey env
  | .setConfig config env => Runtime.setConfig config env
  | .connectExitNode exitNode env => Runtime.connectExitNode exitNode env
  | .disconnectExitNode nodeKey env => Runtime.disconnectExitNode nodeKey env
  | .disconnectExitNodes env => Runtime.disconnectExitNodes env
  | .startDns dnsServers env => Runtime.startDns dnsServers env
  | .stopDns env => Runtime.stopDns env
  | .driverSync io => Runtime.meshnetCall (modify fun m => { m with driver := m.driver.sync io })

/-- One call, whatever it returns. -/
def step (self : Runtime) (op : Op) : Runtime :=
  (runOn op.call self).1

end Libtelio.Device
