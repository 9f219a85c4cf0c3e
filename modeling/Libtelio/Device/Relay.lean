/- The relay of the device (`device/relay.rs`): the DERP client through which the meshnet
   reaches its peers, started by the first configuration and stopped when the meshnet is
   turned off.

   The relay keeps the device's secret key, and its running client holds a copy in its
   configuration. `set_private_key` takes a new key only while a client runs, and
   `set_config` starts a client with the key the relay kept, so the client always holds the
   relay's key (`keyAgrees_run`). A key given while no client runs is refused with
   `RuntimeNotStarted` and is not kept. -/

import Libtelio.Lib.EState
import Libtelio.Lib.Run
import Libtelio.Net.Addr
import Libtelio.TelioCrypto.Key

set_option autoImplicit false
set_option relaxedAutoImplicit false
set_option mvcgen.warning false

namespace Libtelio.Device

open Std.Do Libtelio.Net Libtelio.TelioCrypto Libtelio.Lib.EState Libtelio.Lib.Run

/-- The running relay, `relay::Runtime`, as the configuration of its DERP client: the secret
key and the peers it accepts. The servers and mesh address of that configuration, and the
router, multiplexer and nurse of the runtime, are not modelled. -/
structure RelayRuntime where
  secretKey : SecretKey
  allowedPk : List PublicKey
  deriving DecidableEq

structure Relay where
  rt : Option RelayRuntime
  privateKey : SecretKey

/-- `relay::Config`, the peers of the meshnet. -/
structure RelayConfig where
  nodes : List PublicKey

/-- What the components of the relay answer to `set_config`: whether a new runtime starts,
whether the router takes the configuration, and the proxy's endpoint map. -/
structure RelayIo where
  start : Except String Unit
  router : Except String Unit
  endpoints : Except String (List (PublicKey × SocketAddr))

/-- Relay calls fail with the text of a `relay::Error`. -/
abbrev RelayM := EStateM String Relay

namespace Relay

def runtimeNotStarted : String := "Relay runtime not started"

/-- `Relay::start`: the key is kept and no client runs yet. -/
def start (privateKey : SecretKey) : Relay := ⟨none, privateKey⟩

def setPrivateKey (privateKey : SecretKey) : RelayM Unit := do
  match (← get).rt with
  | some rt =>
    -- the client keeps the rest of its configuration, `..rt.derp.get_config()`
    set ({ rt := some { rt with secretKey := privateKey }, privateKey } : Relay)
  | none => throw runtimeNotStarted

/-- `Relay::set_config`: no configuration stops the client; a configuration starts one with the
kept key if none runs, then gives it the kept key and the configuration's peers. -/
def setConfig (config : Option RelayConfig) (io : RelayIo) :
    RelayM (List (PublicKey × SocketAddr)) := do
  match config with
  | none =>
    modify fun self => { self with rt := none }
    pure []
  | some config =>
    if (← get).rt.isNone then
      match io.start with
      | .ok () => modify fun self => { self with rt := some ⟨self.privateKey, []⟩ }
      | .error msg => throw msg
    let self ← get
    match self.rt with
    | some rt =>
      set { self with rt := some { rt with secretKey := self.privateKey, allowedPk := config.nodes } }
      match io.router with
      | .ok () => pure ()
      | .error msg => throw msg
      match io.endpoints with
      | .ok endpoints => pure endpoints
      | .error msg => throw msg
    | none => throw runtimeNotStarted

/-- `Relay::get_relay_config`: the running client's configuration. -/
def getRelayConfig : RelayM RelayRuntime := do
  match (← get).rt with
  | some rt => pure rt
  | none => throw runtimeNotStarted

/-- The running client, if any, holds the key the relay keeps. -/
def KeyAgrees (self : Relay) : Prop :=
  ∀ rt, self.rt = some rt → rt.secretKey = self.privateKey

theorem keyAgrees_start (privateKey : SecretKey) : (start privateKey).KeyAgrees := by
  intro rt h
  cases h

theorem setPrivateKey_spec (privateKey : SecretKey) (t0 : Relay) :
    ⦃fun self => ⌜self = t0⌝⦄ setPrivateKey privateKey
    ⦃post⟨fun _ self => ⌜t0.rt.isSome ∧
        self = ⟨t0.rt.map fun rt => { rt with secretKey := privateKey }, privateKey⟩⌝,
      fun e self => ⌜t0.rt = none ∧ self = t0 ∧ e = runtimeNotStarted⌝⟩⦄ := by
  mvcgen [setPrivateKey]
  all_goals simp_all

/-- The relay keeps `privateKey`, and its running client holds it. -/
def KeyAt (privateKey : SecretKey) (self : Relay) : Prop :=
  self.privateKey = privateKey ∧ self.KeyAgrees

theorem setConfig_keyAt (privateKey : SecretKey) (config : Option RelayConfig) (io : RelayIo) :
    ⦃fun self => ⌜self.KeyAt privateKey⌝⦄ setConfig config io
    ⦃post⟨fun _ self => ⌜self.KeyAt privateKey⌝, fun _ self => ⌜self.KeyAt privateKey⌝⟩⦄ := by
  mvcgen [setConfig]
  all_goals simp_all +zetaDelta [KeyAt, KeyAgrees]

/-- The calls that change the relay. -/
inductive Op
  | setPrivateKey (privateKey : SecretKey)
  | setConfig (config : Option RelayConfig) (io : RelayIo)

def Op.call : Op → RelayM Unit
  | .setPrivateKey privateKey => Relay.setPrivateKey privateKey
  | .setConfig config io => do let _ ← Relay.setConfig config io

/-- One call, whatever it returns. -/
def step (self : Relay) (op : Op) : Relay := (runOn op.call self).1

end Relay

end Libtelio.Device
