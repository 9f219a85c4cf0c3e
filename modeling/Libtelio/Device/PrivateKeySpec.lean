/- The device's key and the relay client's.

   `set_private_key` records the key as requested, gives it to the WireGuard driver, and hands it
   to the relay, whose refusal it drops: the relay takes a key only while its client runs. A key
   given while the meshnet is off is therefore lost to the relay, and the client that the next
   configuration starts holds the key the relay kept (`relay_client_keeps_stale_key`). Every other
   call keeps the relay's key and the requested one as they were, so the client holds the
   requested key over every run in which the key is changed only while a client runs or while
   the resolver refuses it (`keyFollows_run`). -/

import Libtelio.Device.ExitNodeSpec

set_option autoImplicit false
set_option relaxedAutoImplicit false
set_option mvcgen.warning false

namespace Libtelio.Device

open Std.Do Libtelio.Net Libtelio.TelioCrypto Libtelio.TelioModel Libtelio.Lib.EState
  Libtelio.Lib.Run

namespace Runtime

/-- The relay keeps the requested key, and its running client holds it. -/
def KeyFollows (r : Runtime) : Prop :=
  r.relay.KeyAt r.requestedState.deviceConfig.privateKey

theorem meshnetCall_keyFollows {α : Type} (x : MeshnetM α) :
    ⦃fun r => ⌜r.KeyFollows⌝⦄ meshnetCall x
    ⦃post⟨fun _ r => ⌜r.KeyFollows⌝, fun _ r => ⌜r.KeyFollows⌝⟩⦄ :=
  zoom_frame _ _ x fun _ _ follows => follows

theorem relayCall_keyFollows {α : Type} {x : RelayM α}
    (keep : ∀ k, ⦃fun t => ⌜t.KeyAt k⌝⦄ x
      ⦃post⟨fun _ t => ⌜t.KeyAt k⌝, fun _ t => ⌜t.KeyAt k⌝⟩⦄) :
    ⦃fun r => ⌜r.KeyFollows⌝⦄ relayCall x
    ⦃post⟨fun _ r => ⌜r.KeyFollows⌝, fun _ r => ⌜r.KeyFollows⌝⟩⦄ :=
  zoom_invariant _ _ (I := fun r t => t.KeyAt r.requestedState.deviceConfig.privateKey)
    (fun _ _ => mapError_invariant _ (keep _)) (fun _ follows => follows)
    (fun _ _ _ kept => kept)

theorem relaySetConfig_keyFollows (config : Option RelayConfig) (io : RelayIo) :
    ⦃fun r => ⌜r.KeyFollows⌝⦄ relayCall (Relay.setConfig config io)
    ⦃post⟨fun _ r => ⌜r.KeyFollows⌝, fun _ r => ⌜r.KeyFollows⌝⟩⦄ :=
  relayCall_keyFollows fun k => Relay.setConfig_keyAt k config io

theorem reconfigureDnsPeer_keyFollows (dns : LocalDnsResolver) (allowedIps : List IpNetwork)
    (env : Env) :
    ⦃fun r => ⌜r.KeyFollows⌝⦄ reconfigureDnsPeer dns allowedIps env
    ⦃post⟨fun _ r => ⌜r.KeyFollows⌝, fun _ r => ⌜r.KeyFollows⌝⟩⦄ := by
  mvcgen [reconfigureDnsPeer, dnsCall, meshnetCall_keyFollows]

theorem updateMap_keyFollows (map : Option Nodes) (oldNodeMap : Nodes) (env : Env) :
    ⦃fun r => ⌜r.KeyFollows⌝⦄ updateMap map oldNodeMap env
    ⦃post⟨fun _ r => ⌜r.KeyFollows⌝, fun _ r => ⌜r.KeyFollows⌝⟩⦄ := by
  mvcgen [updateMap, firewallRemoveNode, firewallUpsertNode, modifyFirewall,
    meshnetCall_keyFollows] invariants
  | inv1 => post⟨fun _ r => ⌜r.KeyFollows⌝, fun _ r => ⌜r.KeyFollows⌝⟩
  | inv2 => post⟨fun _ r => ⌜r.KeyFollows⌝, fun _ r => ⌜r.KeyFollows⌝⟩

theorem setConfig_keyFollows (config : Option Config) (env : Env) :
    ⦃fun r => ⌜r.KeyFollows⌝⦄ setConfig config env
    ⦃post⟨fun _ r => ⌜r.KeyFollows⌝, fun _ r => ⌜r.KeyFollows⌝⟩⦄ := by
  mvcgen [setConfig, RequestedState.setMeshConfig, upsertDnsPeers, dnsCall,
    meshnetCall_keyFollows, relaySetConfig_keyFollows, updateMap_keyFollows]

theorem connectExitNode_keyFollows (exitNode : ExitNode) (env : Env) :
    ⦃fun r => ⌜r.KeyFollows⌝⦄ connectExitNode exitNode env
    ⦃post⟨fun _ r => ⌜r.KeyFollows⌝, fun _ r => ⌜r.KeyFollows⌝⟩⦄ := by
  mvcgen [connectExitNode, modifyFirewall, modifyRequestedState, meshnetCall_keyFollows,
    reconfigureDnsPeer_keyFollows]

theorem disconnectExitNodes_keyFollows (env : Env) :
    ⦃fun r => ⌜r.KeyFollows⌝⦄ disconnectExitNodes env
    ⦃post⟨fun _ r => ⌜r.KeyFollows⌝, fun _ r => ⌜r.KeyFollows⌝⟩⦄ := by
  mvcgen [disconnectExitNodes, modifyFirewall, modifyRequestedState, meshnetCall_keyFollows,
    reconfigureDnsPeer_keyFollows]

theorem disconnectExitNode_keyFollows (nodeKey : PublicKey) (env : Env) :
    ⦃fun r => ⌜r.KeyFollows⌝⦄ disconnectExitNode nodeKey env
    ⦃post⟨fun _ r => ⌜r.KeyFollows⌝, fun _ r => ⌜r.KeyFollows⌝⟩⦄ := by
  mvcgen [disconnectExitNode, disconnectExitNodes_keyFollows]

theorem startDns_keyFollows (dnsServers : List IpAddr) (env : Env) :
    ⦃fun r => ⌜r.KeyFollows⌝⦄ startDns dnsServers env
    ⦃post⟨fun _ r => ⌜r.KeyFollows⌝, fun _ r => ⌜r.KeyFollows⌝⟩⦄ := by
  mvcgen [startDns, upsertDnsPeers, dnsCall, modifyRequestedState, meshnetCall_keyFollows]

theorem stopDns_keyFollows (env : Env) :
    ⦃fun r => ⌜r.KeyFollows⌝⦄ stopDns env
    ⦃post⟨fun _ r => ⌜r.KeyFollows⌝, fun _ r => ⌜r.KeyFollows⌝⟩⦄ := by
  mvcgen [stopDns, meshnetCall_keyFollows]

/-- With a relay client running, the key reaches the client and the request alike. -/
theorem setPrivateKey_keyFollows (privateKey : SecretKey) (env : Env) :
    ⦃fun r => ⌜r.KeyFollows ∧ (r.dns.isSome ∨ r.relay.rt.isSome)⌝⦄ setPrivateKey privateKey env
    ⦃post⟨fun _ r => ⌜r.KeyFollows⌝, fun _ r => ⌜r.KeyFollows⌝⟩⦄ := by
  mvcgen [setPrivateKey, modifyRequestedState, meshnetSetPrivateKey_call_spec,
    relaySetPrivateKey_call_spec]
  all_goals simp_all +zetaDelta [KeyFollows, Relay.KeyAt, Relay.KeyAgrees, MeshnetOnly, RelayOnly]

theorem start_keyFollows (config : DeviceConfig) (io : TelioWg.Io) :
    (start config io).KeyFollows :=
  ⟨rfl, Relay.keyAgrees_start _⟩

/-- A running client holds the key that `get_private_key` reports. -/
theorem KeyFollows.derpConfig {r : Runtime} (follows : r.KeyFollows) {rt : RelayRuntime}
    (got : (runOn getDerpConfig r).2 = .ok rt) :
    (runOn getPrivateKey r).2 = .ok rt.secretKey := by
  rw [getPrivateKey_result, follows.2 rt (getDerpConfig_ok got), follows.1]

end Runtime

/-- Whether a call keeps the relay's key in step with the requested one: a `set_private_key`
must meet the resolver running, which refuses it, or a relay client running. -/
def keyCallAllowed (r : Runtime) : Op → Bool
  | .setPrivateKey _ _ => r.dns.isSome || r.relay.rt.isSome
  | _ => true

theorem step_keyFollows {r : Runtime} {op : Op} (allowed : keyCallAllowed r op = true)
    (follows : r.KeyFollows) : (step r op).KeyFollows := by
  cases op with
  | setPrivateKey privateKey env =>
    have pre : r.KeyFollows ∧ (r.dns.isSome ∨ r.relay.rt.isSome) := by
      simpa [keyCallAllowed, follows] using allowed
    exact state_runOn_of_triple (Runtime.setPrivateKey_keyFollows privateKey env) pre
  | setConfig config env =>
    exact state_runOn_of_triple (Runtime.setConfig_keyFollows config env) follows
  | connectExitNode exitNode env =>
    exact state_runOn_of_triple (Runtime.connectExitNode_keyFollows exitNode env) follows
  | disconnectExitNode nodeKey env =>
    exact state_runOn_of_triple (Runtime.disconnectExitNode_keyFollows nodeKey env) follows
  | disconnectExitNodes env =>
    exact state_runOn_of_triple (Runtime.disconnectExitNodes_keyFollows env) follows
  | startDns dnsServers env =>
    exact state_runOn_of_triple (Runtime.startDns_keyFollows dnsServers env) follows
  | stopDns env => exact state_runOn_of_triple (Runtime.stopDns_keyFollows env) follows
  | driverSync io => exact state_runOn_of_triple (Runtime.meshnetCall_keyFollows _) follows

/-- Over every run from a started runtime in which each `set_private_key` meets a relay client
running or is refused, the relay's running client holds the key that `get_private_key`
reports. -/
theorem keyFollows_run (config : DeviceConfig) (io : TelioWg.Io) (ops : List Op)
    (guarded : Guarded step (fun r op => keyCallAllowed r op = true) (Runtime.start config io) ops)
    {rt : RelayRuntime}
    (got : (runOn Runtime.getDerpConfig (run step (Runtime.start config io) ops)).2 = .ok rt) :
    (runOn Runtime.getPrivateKey (run step (Runtime.start config io) ops)).2 = .ok rt.secretKey := by
  have follows : (run step (Runtime.start config io) ops).KeyFollows := by
    apply run_invariant_of_guarded _ ops (Runtime.start_keyFollows config io) guarded
    intro r op allowed
    exact step_keyFollows allowed
  exact follows.derpConfig got

/-- The meshnet configured, then a new key. -/
def keyWhileRunning : List Op :=
  [portSync, .setConfig (some twoPeers) okEnv, .setPrivateKey (SecretKey.filled 2) okEnv]

theorem keyFollows_run_keyWhileRunning :
    Guarded step (fun r op => keyCallAllowed r op = true) Runtime.new keyWhileRunning ∧
      (runOn Runtime.getDerpConfig (run step Runtime.new keyWhileRunning)).2 =
        .ok ⟨SecretKey.filled 2, [PublicKey.filled 1, PublicKey.filled 2]⟩ ∧
      (runOn Runtime.getPrivateKey (run step Runtime.new keyWhileRunning)).2 =
        .ok (SecretKey.filled 2) :=
  have guarded : Guarded step (fun r op => keyCallAllowed r op = true) Runtime.new
      keyWhileRunning := by decide
  have got : (runOn Runtime.getDerpConfig (run step Runtime.new keyWhileRunning)).2 =
      .ok ⟨SecretKey.filled 2, [PublicKey.filled 1, PublicKey.filled 2]⟩ := by decide
  ⟨guarded, got, keyFollows_run ⟨SecretKey.filled 0⟩ ⟨true, ⟨0, none⟩⟩ keyWhileRunning guarded got⟩

/-- A new key while the meshnet is off, then the meshnet configured. -/
def keyBeforeMeshnet : Runtime :=
  run step Runtime.new
    [.setPrivateKey (SecretKey.filled 2) okEnv, portSync, .setConfig (some twoPeers) okEnv]

/-- `set_private_key` returns Ok with no relay client running, and the client that
`set_config` then starts holds the start key, not the requested one. -/
theorem relay_client_keeps_stale_key :
    (runOn (Runtime.setPrivateKey (SecretKey.filled 2) okEnv) Runtime.new).2 = .ok () ∧
      (runOn Runtime.getDerpConfig keyBeforeMeshnet).2.map (·.secretKey) =
        .ok (SecretKey.filled 0) ∧
      (runOn Runtime.getPrivateKey keyBeforeMeshnet).2 = .ok (SecretKey.filled 2) := by
  decide

end Libtelio.Device
