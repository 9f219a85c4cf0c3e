/- The relay task's connection cycle (`derp/mod.rs`: `State::wait_with_update`,
   `State::disconnect`, `DerpRelay::start_with`, `set_config` and `reconnect`).

   Without a connection, `wait_with_update` walks the server list: each server `get_server`
   hands out is announced on the `event` channel as `Connecting` and tried, and the first one
   that connects is announced as `Connected` and kept. When the list is exhausted it is reset
   and the task sleeps, a second first and twice as long each time after, up to a minute.
   Whatever ends the wait, the list is reset after it. `disconnect` drops the connection and
   announces the server it had as `Disconnected`.

   `connect_http_and_start` is an input, `connects k` for the `k`-th attempt of a wait. The
   loop's `iterations` are the rounds it gets through before the `update` of the `select!`
   arrives; a connection made within them wins. The comparison of configurations in
   `set_config` reads fields outside this model and is an input as well (`same`,
   `containsServer`).

   From a reset list the loop is a round robin over the servers by weight with the backoff
   between rounds (`connectLoop_reset`), and with no servers it only sleeps
   (`connectLoop_empty`). Over every run the `event` channel reports at most one server
   connected at a time, the task's own, and reports it disconnected before it reports another
   one (`reported_run`). -/

import Mathlib
import Libtelio.Lib.Run
import Libtelio.TelioRelay.Derp.ServerList

set_option autoImplicit false
set_option relaxedAutoImplicit false

namespace Libtelio.TelioRelay.Derp

open Libtelio.Lib.Run

/-- `RelayState`, the `conn_state` a server is announced with. -/
inductive RelayState
  | disconnected
  | connecting
  | connected
  deriving DecidableEq, Repr

/-- A server sent on the `event` channel, with its `conn_state`. -/
structure Event where
  state : RelayState
  server : Server
  deriving DecidableEq, Repr

/-- What one round of the connection loop does: announce an attempt, or sleep. -/
inductive LoopStep
  | event (e : Event)
  | sleep (secs : Nat)
  deriving DecidableEq, Repr

def LoopStep.event? : LoopStep → Option Event
  | .event e => some e
  | .sleep _ => none

/-- The `sleep_time` of the `r`-th sleep of a wait: `1f64`, then `(sleep_time * 2f64).min(60f64)`,
whole seconds throughout. -/
def backoff : Nat → Nat
  | 0 => 1
  | r + 1 => min (backoff r * 2) 60

/-- The connection loop of `wait_with_update`, for at most `iterations` rounds: the steps it
took, the list it leaves, and the server it connected to. `attempt` counts the attempts made,
`sleepTime` is the next sleep. -/
def connectLoop (connects : Nat → Bool) :
    Nat → Nat → Nat → Config → List LoopStep × Config × Option Server
  | 0, _, _, config => ([], config, none)
  | iterations + 1, attempt, sleepTime, config =>
    match config.getServer with
    | (config, some server) =>
      let tried := LoopStep.event ⟨.connecting, server⟩
      if connects attempt then ([tried], config, some server)
      else
        let (steps, config, found) := connectLoop connects iterations (attempt + 1) sleepTime config
        (tried :: steps, config, found)
    | (config, none) =>
      -- the list is exhausted: reset it and back off
      let (steps, config, found) :=
        connectLoop connects iterations attempt (min (sleepTime * 2) 60) config.reset
      (.sleep sleepTime :: steps, config, found)

/-- The relay task's `State`, with what the connection cycle reads and writes: the
configuration, whether there is a connection (`conn.is_some()`), the connected server, and
what was sent on the `event` channel, oldest first. -/
structure State where
  config : Config
  connected : Bool
  server : Option Server
  events : List Event

namespace State

/-- The state `DerpRelay::start_with` starts the task in. -/
def startWith (config : Config) : State := ⟨config.reset, false, none, []⟩

/-- `State::disconnect`. -/
def disconnect (self : State) : State :=
  { self with
    connected := false
    server := none
    events := self.events ++ (self.server.map fun server => ⟨.disconnected, server⟩).toList }

/-- `DerpRelay::set_config`: `same` is `s.config == config`, `containsServer` whether the new
list holds the current server. -/
def setConfig (self : State) (config : Config) (same containsServer : Bool) : State :=
  if same then self
  else
    let self := { self with config := config.reset }
    match self.server with
    | some _ => if containsServer then self else self.disconnect
    | none => self.disconnect

/-- What reaches the task. -/
inductive Op
  | setConfig (config : Config) (same containsServer : Bool)
  /-- `DerpRelay::reconnect`. -/
  | reconnect
  /-- The connection's tasks returned, or forwarding to it failed. -/
  | connectionLost
  /-- A `task_exec` that only reads the state: `get_config`, `get_conn_state`. -/
  | query
  /-- A `wait_with_update` that ends by a connection or by `update`, `iterations` rounds of
  the connection loop in. -/
  | wait (connects : Nat → Bool) (iterations : Nat) (update : Op)

/-- One operation of the task. -/
def step (self : State) : Op → State
  | .setConfig config same containsServer => self.setConfig config same containsServer
  | .reconnect => self.disconnect
  | .connectionLost => self.disconnect
  | .query => self
  | .wait connects iterations update =>
    -- with a connection, the `update` branch of the `select!`
    if self.connected then step self update
    else
      let (steps, config, found) := connectLoop connects iterations 0 1 self.config
      let self := { self with events := self.events ++ steps.filterMap LoopStep.event? }
      match found with
      | some server =>
        { config := config.reset
          connected := true
          server := some server
          events := self.events ++ [⟨.connected, server⟩] }
      | none =>
        let self := step { self with config } update
        { self with config := self.config.reset }

end State

/-! The sleeps. -/

theorem backoff_eq (r : Nat) : backoff r = min (2 ^ r) 60 := by
  induction r with
  | zero => rfl
  | succ r ih =>
    rw [backoff, ih, Nat.pow_succ]
    omega

/-! The loop from a reset list. -/

section Rounds

variable (connects : Nat → Bool) (c : Config)

/-- The announcement of an attempt on a server. -/
def tried (server : Server) : LoopStep := .event ⟨.connecting, server.withUsed true⟩

/-- Failed attempts on the next `t` servers of the round. -/
theorem connectLoop_fails (t : Nat) :
    ∀ (p k sleepTime iterations : Nat), p + t ≤ c.servers.length →
      (∀ j < t, connects (k + j) = false) →
      connectLoop connects (iterations + t) k sleepTime
          { c with servers := Config.rotation c.ordered p } =
        (((c.ordered.drop p).take t).map tried ++
            (connectLoop connects iterations (k + t) sleepTime
              { c with servers := Config.rotation c.ordered (p + t) }).1,
          (connectLoop connects iterations (k + t) sleepTime
            { c with servers := Config.rotation c.ordered (p + t) }).2) := by
  induction t with
  | zero => intro p k sleepTime iterations _ _; simp
  | succ t ih =>
    intro p k sleepTime iterations room failing
    have inside : p < c.ordered.length := by simp; omega
    have fails : connects k = false := failing 0 (Nat.succ_pos t)
    have rest := ih (p + 1) (k + 1) sleepTime iterations (by omega)
      (fun j small => by rw [Nat.add_right_comm]; exact failing (j + 1) (by omega))
    rw [show iterations + (t + 1) = iterations + t + 1 by omega,
      show k + (t + 1) = k + 1 + t by omega, show p + (t + 1) = p + 1 + t by omega, connectLoop,
      Config.getServer_rotation, List.getElem?_eq_getElem inside]
    simp only [Option.map_some, fails, Bool.false_eq_true, if_false, rest,
      List.drop_eq_getElem_cons inside, List.take_succ_cons, List.map_cons, List.cons_append,
      tried]

/-- An exhausted list: the task sleeps, and the reset list starts the next round. -/
theorem connectLoop_exhausted (k sleepTime iterations : Nat) :
    connectLoop connects (iterations + 1) k sleepTime
        { c with servers := Config.rotation c.ordered c.servers.length } =
      (.sleep sleepTime :: (connectLoop connects iterations k (min (sleepTime * 2) 60)
          { c with servers := Config.rotation c.ordered 0 }).1,
        (connectLoop connects iterations k (min (sleepTime * 2) 60)
          { c with servers := Config.rotation c.ordered 0 }).2) := by
  rw [connectLoop, Config.getServer_rotation, List.getElem?_eq_none (by simp), Option.map_none]
  dsimp only
  rw [Config.reset_rotation, Config.reset_eq, Config.rotation_zero_ordered]

/-- A successful attempt ends the loop. -/
theorem connectLoop_connects (p k sleepTime iterations : Nat) {server : Server}
    (at_p : c.ordered[p]? = some server) (success : connects k = true) :
    connectLoop connects (iterations + 1) k sleepTime
        { c with servers := Config.rotation c.ordered p } =
      ([tried server], { c with servers := Config.rotation c.ordered (p + 1) },
        some (server.withUsed true)) := by
  rw [connectLoop, Config.getServer_rotation, at_p]
  simp [success, tried]

/-- From the start of round `r`, `d` failed rounds and then `p` failed attempts before the one
that connects. -/
theorem connectLoop_rounds (p : Nat) (inside : p < c.servers.length) :
    ∀ (d r iterations : Nat),
      (∀ j < d * c.servers.length + p, connects (r * c.servers.length + j) = false) →
      connects (r * c.servers.length + d * c.servers.length + p) = true →
      connectLoop connects (iterations + d * (c.servers.length + 1) + p + 1)
          (r * c.servers.length) (backoff r) { c with servers := Config.rotation c.ordered 0 } =
        ((List.range' r d).flatMap (fun r => c.ordered.map tried ++ [.sleep (backoff r)]) ++
            (c.ordered.take (p + 1)).map tried,
          { c with servers := Config.rotation c.ordered (p + 1) },
          c.ordered[p]?.map (Server.withUsed true)) := by
  intro d
  induction d with
  | zero =>
    intro r iterations failing success
    simp only [Nat.zero_mul, Nat.add_zero, Nat.zero_add] at failing success ⊢
    have opening := connectLoop_fails connects c p 0 (r * c.servers.length) (backoff r)
      (iterations + 1) (by omega) failing
    obtain ⟨server, at_p⟩ : ∃ server, c.ordered[p]? = some server :=
      ⟨_, List.getElem?_eq_getElem (by simpa using inside)⟩
    rw [show iterations + p + 1 = iterations + 1 + p by omega, opening, Nat.zero_add,
      connectLoop_connects connects c p _ _ _ at_p success, at_p]
    simp [List.take_add_one, at_p]
  | succ d ih =>
    intro r iterations failing success
    have round := connectLoop_fails connects c c.servers.length 0 (r * c.servers.length)
      (backoff r) (iterations + d * (c.servers.length + 1) + p + 1 + 1) (by omega)
      (fun j small => failing j (by rw [Nat.succ_mul]; omega))
    have next := ih (r + 1) iterations
      (fun j small => by
        rw [Nat.succ_mul, Nat.add_assoc]
        exact failing (c.servers.length + j) (by rw [Nat.succ_mul]; omega))
      (by rw [Nat.succ_mul] at success ⊢; rw [← success]; congr 1; ring)
    rw [show iterations + (d + 1) * (c.servers.length + 1) + p + 1 =
        iterations + d * (c.servers.length + 1) + p + 1 + 1 + c.servers.length by ring,
      round, Nat.zero_add, connectLoop_exhausted, ← Nat.succ_mul]
    rw [show min (backoff r * 2) 60 = backoff (r + 1) from rfl, next]
    simp [List.range'_succ, List.drop_zero, List.take_of_length_le]

/-- The connection loop from a reset list is a round robin with backoff. When the first
successful attempt of a wait is its `a`-th, and the loop gets the rounds it needs, it tries the
servers in weight order (ties in list order), each announced as `Connecting`; after each round
of `n` failed attempts it sleeps, `min (2^r) 60` seconds after round `r`; and it connects to
the `(a mod n)`-th server, leaving the list that far into its rotation. -/
theorem connectLoop_reset (a : Nat) (nonempty : c.servers ≠ [])
    (success : connects a = true) (failing : ∀ j < a, connects j = false)
    (iterations : Nat) (enough : a + a / c.servers.length + 1 ≤ iterations) :
    connectLoop connects iterations 0 1 c.reset =
      ((List.range (a / c.servers.length)).flatMap
            (fun r => c.ordered.map tried ++ [.sleep (min (2 ^ r) 60)]) ++
          (c.ordered.take (a % c.servers.length + 1)).map tried,
        { c with servers := Config.rotation c.ordered (a % c.servers.length + 1) },
        c.ordered[a % c.servers.length]?.map (Server.withUsed true)) := by
  have pos : 0 < c.servers.length := List.length_pos_iff.mpr nonempty
  have split := Nat.div_add_mod a c.servers.length
  obtain ⟨extra, rfl⟩ := Nat.exists_eq_add_of_le enough
  have rounds := connectLoop_rounds connects c (a % c.servers.length) (Nat.mod_lt a pos)
    (a / c.servers.length) 0 extra
    (fun j small => by
      rw [Nat.zero_mul, Nat.zero_add]
      rw [Nat.mul_comm] at small
      exact failing j (by omega))
    (by rw [Nat.zero_mul, Nat.zero_add, Nat.mul_comm]; rwa [split])
  have start : c.reset = { c with servers := Config.rotation c.ordered 0 } := by
    rw [Config.reset_eq, Config.rotation_zero_ordered]
  rw [start, show a + a / c.servers.length + 1 + extra =
      extra + a / c.servers.length * (c.servers.length + 1) + a % c.servers.length + 1 by
    rw [Nat.mul_succ, Nat.mul_comm]; omega]
  rw [show backoff 0 = 1 from rfl, Nat.zero_mul] at rounds
  rw [rounds]
  simp [List.range_eq_range', backoff_eq]

/-- Two servers listed heavier first: with the first success at the fourth attempt, the loop
tries both, sleeps a second, tries both again and connects to the lighter one. -/
def twoServers : Config :=
  { secretKey := TelioCrypto.SecretKey.filled 9
    servers := [
      { ipv4 := Net.Ipv4Addr.new 10 0 0 2, stunPort := 3479, stunPlaintextPort := 3478,
        publicKey := TelioCrypto.PublicKey.filled 2, weight := 2, used := false },
      { ipv4 := Net.Ipv4Addr.new 10 0 0 1, stunPort := 3479, stunPlaintextPort := 3478,
        publicKey := TelioCrypto.PublicKey.filled 1, weight := 1, used := false }]
    meshIp := .v4 (Net.Ipv4Addr.new 100 64 0 1) }

theorem connectLoop_twoServers :
    twoServers.servers ≠ [] ∧ (fun k => decide (k = 3)) 3 = true ∧
      (∀ j < 3, (fun k => decide (k = 3)) j = false) ∧
      3 + 3 / twoServers.servers.length + 1 ≤ 5 ∧
      connectLoop (fun k => decide (k = 3)) 5 0 1 twoServers.reset =
        ((List.range (3 / twoServers.servers.length)).flatMap
              (fun r => twoServers.ordered.map tried ++ [.sleep (min (2 ^ r) 60)]) ++
            (twoServers.ordered.take (3 % twoServers.servers.length + 1)).map tried,
          { twoServers with
            servers := Config.rotation twoServers.ordered (3 % twoServers.servers.length + 1) },
          twoServers.ordered[3 % twoServers.servers.length]?.map (Server.withUsed true)) :=
  have success : (fun k => decide (k = 3)) 3 = true := rfl
  have failing : ∀ j < 3, (fun k => decide (k = 3)) j = false := fun j small => by
    simp only [decide_eq_false_iff_not]; omega
  ⟨by simp [twoServers], success, failing, by simp [twoServers],
    connectLoop_reset _ twoServers 3 (by simp [twoServers]) success failing 5
      (by simp [twoServers])⟩

/-- With no servers the loop never tries anything: every round it finds the list exhausted,
resets it and sleeps, one second first and twice as long each time after, up to a minute. -/
theorem connectLoop_empty (empty : c.servers = []) :
    ∀ (iterations r k : Nat), connectLoop connects iterations k (backoff r) c =
      ((List.range' r iterations).map fun r => .sleep (min (2 ^ r) 60), c, none) := by
  intro iterations
  induction iterations with
  | zero => intro r k; rfl
  | succ iterations ih =>
    intro r k
    have same : ({ c with servers := [] } : Config) = c := by rw [← empty]
    have exhausted : c.getServer = (c, none) := by
      simp [Config.getServer, empty, Config.getServerFrom, same]
    have reset : c.reset = c := by
      simp [Config.reset, empty, same]
    rw [connectLoop, exhausted]
    dsimp only
    rw [reset, show min (backoff r * 2) 60 = backoff (r + 1) from rfl, ih]
    simp [List.range'_succ, backoff_eq]

end Rounds

theorem connectLoop_noServers :
    ({ twoServers with servers := [] } : Config).servers = [] ∧
      connectLoop (fun _ => true) 4 0 (backoff 0) { twoServers with servers := [] } =
        ((List.range' 0 4).map fun r => .sleep (min (2 ^ r) 60),
          { twoServers with servers := [] }, none) :=
  ⟨rfl, connectLoop_empty _ _ rfl 4 0 0⟩

/-! The events over every run. -/

/-- The server the `event` channel reports connected after `events`, from `current`; `none` if
the events break the protocol: an attempt or a connection announced while a server is reported
connected, or the disconnection of another server or of none. -/
def reported : Option Server → List Event → Option (Option Server)
  | current, [] => some current
  | none, ⟨.connecting, _⟩ :: events => reported none events
  | none, ⟨.connected, server⟩ :: events => reported (some server) events
  | some current, ⟨.disconnected, server⟩ :: events =>
    if server = current then reported none events else none
  | _, _ :: _ => none

theorem reported_append (current : Option Server) (events more : List Event) :
    reported current (events ++ more) = (reported current events).bind fun s => reported s more := by
  induction events generalizing current with
  | nil => rfl
  | cons e events ih =>
    obtain ⟨state, server⟩ := e
    cases current <;> cases state <;> simp [reported, ih]
    -- a disconnection: of the reported server or of another
    split <;> simp

/-- Announced attempts do not change what is reported. -/
theorem reported_connecting (events : List Event)
    (attempts : ∀ e ∈ events, e.state = .connecting) : reported none events = some none := by
  induction events with
  | nil => rfl
  | cons e events ih =>
    obtain ⟨state, server⟩ := e
    have first : state = .connecting := attempts _ List.mem_cons_self
    subst first
    exact ih fun e mem => attempts e (List.mem_cons_of_mem _ mem)

/-- The loop announces attempts only. -/
theorem connectLoop_attempts (connects : Nat → Bool) :
    ∀ (iterations attempt sleepTime : Nat) (config : Config),
      ∀ e ∈ (connectLoop connects iterations attempt sleepTime config).1.filterMap
        LoopStep.event?, e.state = .connecting := by
  intro iterations
  induction iterations with
  | zero => intro _ _ _ e mem; simp [connectLoop] at mem
  | succ iterations ih =>
    intro attempt sleepTime config e mem
    rw [connectLoop] at mem
    split at mem
    · split at mem
      · simp only [List.filterMap_cons, LoopStep.event?, List.filterMap_nil,
          List.mem_singleton] at mem
        rw [mem]
      · simp only [List.filterMap_cons, LoopStep.event?, List.mem_cons] at mem
        rcases mem with rfl | mem
        · rfl
        · exact ih _ _ _ e mem
    · simp only [List.filterMap_cons, LoopStep.event?] at mem
      exact ih _ _ _ e mem

namespace State

/-- What the event channel says agrees with the task: the server reported connected is the
task's, and there is a connection exactly when there is such a server. -/
def Reports (s : State) : Prop :=
  reported none s.events = some s.server ∧ s.connected = s.server.isSome

theorem reports_startWith (config : Config) : (startWith config).Reports := ⟨rfl, rfl⟩

theorem Reports.disconnect {s : State} (agrees : s.Reports) : s.disconnect.Reports := by
  obtain ⟨events, -⟩ := agrees
  refine ⟨?_, rfl⟩
  simp only [State.disconnect, reported_append, events, Option.bind_some]
  cases s.server <;> simp [reported]

theorem Reports.setConfig {s : State} (agrees : s.Reports) (config : Config)
    (same containsServer : Bool) : (s.setConfig config same containsServer).Reports := by
  have kept : ({ s with config := config.reset } : State).Reports := agrees
  unfold State.setConfig
  cases same
  · -- a new configuration: kept, or the connection dropped with it
    simp only [Bool.false_eq_true, if_false]
    split
    · split
      · exact kept
      · exact kept.disconnect
    · exact kept.disconnect
  · exact agrees

/-- A wait with no connection: the loop's announcements keep the channel's report, and so does
the update that may interrupt it, and then the connection it may make. -/
theorem Reports.step {s : State} (agrees : s.Reports) (op : Op) : (s.step op).Reports := by
  induction op generalizing s with
  | setConfig config same containsServer => exact agrees.setConfig config same containsServer
  | reconnect => exact agrees.disconnect
  | connectionLost => exact agrees.disconnect
  | query => exact agrees
  | wait connects iterations update ih =>
    by_cases busy : s.connected = true
    · simp only [State.step, busy, if_true]
      exact ih agrees
    · have idle : s.connected = false := by simpa using busy
      obtain ⟨events, connected⟩ := agrees
      have none_yet : s.server = none := by
        cases server : s.server
        · rfl
        · simp [server, idle] at connected
      have attempts := connectLoop_attempts connects iterations 0 1 s.config
      rcases loop : connectLoop connects iterations 0 1 s.config with ⟨steps, config', found⟩
      rw [loop] at attempts
      have announced : reported none (s.events ++ steps.filterMap LoopStep.event?) = some none := by
        rw [reported_append, events, none_yet, Option.bind_some, reported_connecting _ attempts]
      cases found with
      | some server =>
        -- the connection is announced on a channel that reports none
        simp only [State.step, idle, Bool.false_eq_true, if_false, loop]
        refine ⟨?_, rfl⟩
        simp only [reported_append, announced, Option.bind_some]
        rfl
      | none =>
        -- the update runs on the task as the loop left it
        simp only [State.step, idle, Bool.false_eq_true, if_false, loop]
        have resumed : ({
            config := config'
            connected := false
            server := s.server
            events := s.events ++ steps.filterMap LoopStep.event? } : State).Reports :=
          ⟨by rw [none_yet]; exact announced, by simp [none_yet]⟩
        exact ih resumed

end State

/-- Over every run of the relay task from `start_with`, what the `event` channel reports
agrees with the task: the last server reported `Connected` and not since `Disconnected` is the
task's current server, there is a connection exactly when there is such a server, no attempt
or second connection is announced while one is reported, and only that server is ever
reported disconnected. -/
theorem reported_run (config : Config) (ops : List State.Op) :
    reported none (run State.step (State.startWith config) ops).events =
        some (run State.step (State.startWith config) ops).server ∧
      (run State.step (State.startWith config) ops).connected =
        (run State.step (State.startWith config) ops).server.isSome :=
  run_invariant (State.reports_startWith config) (fun _ op agrees => agrees.step op) ops

end Libtelio.TelioRelay.Derp
