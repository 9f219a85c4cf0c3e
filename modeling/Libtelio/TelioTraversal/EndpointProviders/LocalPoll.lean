/- The local interfaces provider's poll, and the provider as a task (`endpoint_providers/local.rs`).

   `poll_local_endpoints` reads the WireGuard listen port, the port of the provider's UDP socket
   and the machine's interfaces, keeps the IPv4 addresses that are neither loopback nor in
   libtelio's meshnet range 100.64/10 (`gather_local_interfaces`), and makes of each a candidate
   with both ports. It publishes the candidates only when they differ from the last list it
   published, and remembers a list only once it is sent. The task polls on every tick of its
   poll timer and on `trigger_endpoint_candidates_discovery`, between the packets its socket
   receives and the calls that replace a subscriber.

   The provider is a change publisher (`Lib.Changes`). Over a run that keeps its subscriber, the
   subscriber receives exactly the changes of what the successful polls see, compared first with
   the list remembered when the run began, so a new subscriber is not sent the current list
   again (`run_publishes_changes`). Over every run whose subscribers come with empty channels,
   each channel is settled and carries only candidates of local IPv4 addresses
   (`run_candidates_settled`). -/

import Mathlib
import Libtelio.Lib.Changes
import Libtelio.Lib.Run
import Libtelio.TelioTraversal.EndpointProviders.Provider

set_option autoImplicit false
set_option relaxedAutoImplicit false
set_option mvcgen.warning false

namespace Libtelio.TelioTraversal.EndpointProviders

open Std.Do Libtelio.Net Libtelio.TelioProto Libtelio.Lib.EState Libtelio.Lib.Changes Libtelio.Lib.Run

/-- `EndpointCandidatesChangeEvent`. -/
abbrev EndpointCandidatesChangeEvent := List EndpointCandidate

namespace Local

/-- An `if_addrs::Interface`, by the address the provider reads of it; its name, netmask,
broadcast address and index are not read. -/
structure IfAddrsInterface where
  ip : IpAddr
  deriving DecidableEq, Repr

/-- What a poll reads from outside besides the WireGuard interface. -/
structure PollIo extends Io where
  /-- `udp_socket.local_addr()`, by its port. -/
  udpPort : Option UInt16
  /-- `get_if_addr.get()`. -/
  ifAddrs : Option (List IfAddrsInterface)

/-- `Ipv4Net::new(Ipv4Addr::new(100, 64, 0, 0), 10)`, the range of libtelio's meshnet
addresses; its `?` never fails. -/
def sharedRange : Ipv4Net := ⟨Ipv4Addr.new 100 64 0 0, 10, by decide⟩

/-- `gather_local_interfaces`: the interfaces whose address is not loopback, and is IPv4
outside the meshnet range. -/
def gatherLocalInterfaces (ifAddrs : Option (List IfAddrsInterface)) :
    Except Error (List IfAddrsInterface) :=
  match ifAddrs with
  | none => .error .iOError
  | some itfs =>
    .ok ((itfs.filter fun x => !x.ip.isLoopback).filter fun x =>
      match x.ip with
      | .v4 v4 => !sharedRange.contains v4
      | .v6 _ => false)

/-- The fields of the provider's `State` that its poll reads and writes. -/
structure Poller where
  endpointCandidatesChangePublisher : Option (Chan EndpointCandidatesChangeEvent)
  lastEndpointCandidatesEvent : EndpointCandidatesChangeEvent
  deriving DecidableEq, Repr

/-- `poll_local_endpoints`. -/
def pollLocalEndpoints (io : PollIo) : EStateM Error Poller Unit := do
  match (← get).endpointCandidatesChangePublisher with
  | none => pure ()
  | some candidatesPublisher =>
    let wgPort ← getWgPort io.toIo
    let udpPort ← match io.udpPort with
      | some port => pure port
      | none => throw .iOError
    let itfs ← tryOk id (gatherLocalInterfaces io.ifAddrs)
    let candidates : EndpointCandidatesChangeEvent :=
      itfs.map fun itf => ⟨⟨itf.ip, wgPort⟩, ⟨itf.ip, udpPort⟩⟩
    if (← get).lastEndpointCandidatesEvent ≠ candidates then
      let candidatesPublisher ←
        tryOk id (candidatesPublisher.send candidates .endpointCandidatePublishError)
      modify fun self =>
        { self with
          endpointCandidatesChangePublisher := some candidatesPublisher
          lastEndpointCandidatesEvent := candidates }

/-- The provider's `State`: the fields of the receive path and those of the poll. -/
structure Provider where
  state : State
  poller : Poller

/-- The state `new_with_get_if_addrs` starts the task with. -/
def Provider.new : Provider := ⟨⟨none, []⟩, ⟨none, []⟩⟩

/-- What the task handles: a datagram of its socket, a poll (a tick of `poll_timer`, or
`trigger_endpoint_candidates_discovery`), and the other calls of `EndpointProvider`. -/
inductive Event
  | rx (buf : List UInt8) (addr : SocketAddr) (io : Io)
  | poll (io : PollIo)
  | subscribeForPongEvents (tx : Chan PongEvent)
  | subscribeForEndpointCandidatesChangeEvents (tx : Chan EndpointCandidatesChangeEvent)
  | sendPing (addr : SocketAddr) (wgPort : WGPort) (sessionId : Session) (io : Io)

/-- A method of the receive path, run on the provider. -/
def onState (x : LocalM Unit) : EStateM Error Provider Unit :=
  zoom (·.state) (fun p s => { p with state := s }) x

/-- A method of the poll, run on the provider. -/
def onPoller (x : EStateM Error Poller Unit) : EStateM Error Provider Unit :=
  zoom (·.poller) (fun p s => { p with poller := s }) x

/-- One turn of `wait_with_update`, or one call of the provider. The receive path's and the
poll's errors are logged, and the provider keeps what the method left. -/
def Provider.step (pb : Protobuf) (p : Provider) : Event → Provider
  | .rx buf addr io => (runOn (onState (handleRxPacket pb buf addr io)) p).1
  | .poll io => (runOn (onPoller (pollLocalEndpoints io)) p).1
  | .subscribeForPongEvents tx => { p with state := { p.state with pongPublisher := some tx } }
  | .subscribeForEndpointCandidatesChangeEvents tx =>
    { p with poller := { p.poller with endpointCandidatesChangePublisher := some tx } }
  | .sendPing addr wgPort sessionId io => (runOn (onState (sendPing pb addr wgPort sessionId io)) p).1

/-! What a poll sees, and what it does with it. -/

/-- The addresses `gather_local_interfaces` keeps. -/
def localCandidate : IpAddr → Bool
  | .v4 ip => !ip.isLoopback && !sharedRange.contains ip
  | .v6 _ => false

/-- The candidates a poll computes when the listen port, the socket's port and the interfaces
are all there. -/
def PollIo.candidates (io : PollIo) : Option EndpointCandidatesChangeEvent := do
  let wgPort ← io.interface.bind (·.listenPort)
  let udpPort ← io.udpPort
  let itfs ← io.ifAddrs
  pure ((itfs.filter fun itf => localCandidate itf.ip).map fun itf =>
    ⟨⟨itf.ip, wgPort⟩, ⟨itf.ip, udpPort⟩⟩)

theorem gatherLocalInterfaces_none : gatherLocalInterfaces none = .error .iOError := rfl

/-- The two filters of `gather_local_interfaces` are the one of `localCandidate`. -/
theorem gatherLocalInterfaces_some (itfs : List IfAddrsInterface) :
    gatherLocalInterfaces (some itfs) = .ok (itfs.filter fun itf => localCandidate itf.ip) := by
  rw [gatherLocalInterfaces, List.filter_filter]
  congr 2
  funext itf
  cases itf.ip <;> simp [localCandidate, IpAddr.isLoopback, Bool.and_comm]

/-- A candidate a poll computes is one of a local IPv4 address, the same for both ports. -/
theorem PollIo.mem_candidates {io : PollIo} {cs : EndpointCandidatesChangeEvent}
    (seen : io.candidates = some cs) {c : EndpointCandidate} (mem : c ∈ cs) :
    c.wg.ip = c.udp.ip ∧ localCandidate c.wg.ip = true := by
  simp only [PollIo.candidates, Option.bind_eq_bind, Option.bind_eq_some_iff, Option.pure_def,
    Option.some.injEq] at seen
  obtain ⟨wgPort, -, udpPort, -, itfs, -, rfl⟩ := seen
  obtain ⟨itf, kept, rfl⟩ := List.mem_map.mp mem
  exact ⟨rfl, (List.mem_filter.mp kept).2⟩

/-- What a poll leaves of the poller: a subscribed poller publishes what the poll sees if that
differs from the last list and the receiver is there; in every other case it stays as it was. -/
def Poller.polled (s : Poller) (io : PollIo) : Poller :=
  match s.endpointCandidatesChangePublisher, io.candidates with
  | some ch, some cs =>
    if s.lastEndpointCandidatesEvent ≠ cs ∧ ch.receiverAlive = true then
      ⟨some { ch with sent := ch.sent ++ [cs] }, cs⟩
    else s
  | _, _ => s

theorem pollLocalEndpoints_spec (s0 : Poller) (io : PollIo) :
    ⦃fun s => ⌜s = s0⌝⦄ pollLocalEndpoints io
    ⦃post⟨fun _ s => ⌜s = s0.polled io⌝, fun _ s => ⌜s = s0.polled io⌝⟩⦄ := by
  -- the interface and the interface list are split first, so that the observation reduces
  rcases interface : io.interface with _ | itf <;> rcases ifAddrs : io.ifAddrs with _ | itfs
  all_goals mvcgen [pollLocalEndpoints, getWgPort, tryOk]
  all_goals simp_all +zetaDelta [Poller.polled, PollIo.candidates, gatherLocalInterfaces_none,
    gatherLocalInterfaces_some]

theorem runOn_pollLocalEndpoints (s : Poller) (io : PollIo) :
    (runOn (pollLocalEndpoints io) s).1 = s.polled io :=
  state_runOn_of_triple (pollLocalEndpoints_spec s io) rfl

/-! The provider over runs. -/

@[simp] theorem Provider.poller_step_rx (pb : Protobuf) (p : Provider) (buf : List UInt8)
    (addr : SocketAddr) (io : Io) : (p.step pb (.rx buf addr io)).poller = p.poller := by
  simp [Provider.step, onState]

@[simp] theorem Provider.poller_step_poll (pb : Protobuf) (p : Provider) (io : PollIo) :
    (p.step pb (.poll io)).poller = p.poller.polled io := by
  simp [Provider.step, onPoller, runOn_pollLocalEndpoints]

@[simp] theorem Provider.poller_step_subscribeForPongEvents (pb : Protobuf) (p : Provider)
    (tx : Chan PongEvent) : (p.step pb (.subscribeForPongEvents tx)).poller = p.poller := rfl

@[simp] theorem Provider.poller_step_sendPing (pb : Protobuf) (p : Provider) (addr : SocketAddr)
    (wgPort : WGPort) (sessionId : Session) (io : Io) :
    (p.step pb (.sendPing addr wgPort sessionId io)).poller = p.poller := by
  simp [Provider.step, onState]

/-- What an event makes the provider see: the candidates of a successful poll. -/
def Event.observed : Event → Option EndpointCandidatesChangeEvent
  | .poll io => io.candidates
  | _ => none

/-- The event does not replace the candidates subscriber. -/
def Event.keepsSubscriber : Event → Bool
  | .subscribeForEndpointCandidatesChangeEvents _ => false
  | _ => true

/-- A subscribed poller whose receiver is there publishes what it sees when it differs from the
last list. -/
theorem Poller.polled_of_subscribed {s : Poller} {ch : Chan EndpointCandidatesChangeEvent}
    (subscribed : s.endpointCandidatesChangePublisher = some ch) (alive : ch.receiverAlive = true)
    (io : PollIo) :
    s.polled io = match io.candidates with
      | some cs =>
        if s.lastEndpointCandidatesEvent = cs then s
        else ⟨some { ch with sent := ch.sent ++ [cs] }, cs⟩
      | none => s := by
  unfold Poller.polled
  rw [subscribed]
  cases io.candidates with
  | none => rfl
  | some cs => by_cases same : s.lastEndpointCandidatesEvent = cs <;> simp [same, alive]

/-- Over a run that keeps its subscriber, whose receiver is there, the subscriber receives
exactly the changes of the candidate lists the successful polls see, the first compared with the
list the provider remembered when the run began; and the provider ends remembering the last list
seen. -/
theorem run_publishes_changes (pb : Protobuf) (events : List Event) :
    ∀ (p : Provider) {ch : Chan EndpointCandidatesChangeEvent},
      p.poller.endpointCandidatesChangePublisher = some ch → ch.receiverAlive = true →
      (∀ e ∈ events, e.keepsSubscriber = true) →
      (run (Provider.step pb) p events).poller =
        ⟨some { ch with
            sent := ch.sent ++
              changes p.poller.lastEndpointCandidatesEvent (events.filterMap Event.observed) },
          (events.filterMap Event.observed).getLastD p.poller.lastEndpointCandidatesEvent⟩ := by
  induction events with
  | nil =>
    intro p ch subscribed _ _
    obtain ⟨state, ⟨pub, last⟩⟩ := p
    simp only at subscribed
    subst subscribed
    simp only [run, List.foldl_nil, List.filterMap_nil, changes_nil, List.append_nil,
      List.getLastD_nil]
  | cons e events ih =>
    intro p ch subscribed alive keeps
    have rest : ∀ e ∈ events, e.keepsSubscriber = true := fun e mem => keeps e (by simp [mem])
    have run_cons : run (Provider.step pb) p (e :: events) =
        run (Provider.step pb) (p.step pb e) events := rfl
    -- a step that leaves the poller as it was
    have unchanged : (p.step pb e).poller = p.poller → e.observed = none →
        (run (Provider.step pb) p (e :: events)).poller = ⟨some { ch with
            sent := ch.sent ++ changes p.poller.lastEndpointCandidatesEvent
              ((e :: events).filterMap Event.observed) },
          ((e :: events).filterMap Event.observed).getLastD
            p.poller.lastEndpointCandidatesEvent⟩ := by
      intro same none
      rw [run_cons, ih _ (by rw [same]; exact subscribed) alive rest, same, List.filterMap_cons,
        none]
    cases e with
    | poll io =>
      have polled := Poller.polled_of_subscribed subscribed alive io
      cases seen : io.candidates with
      | none =>
        simp only [seen] at polled
        exact unchanged (by rw [Provider.poller_step_poll, polled]) seen
      | some cs =>
        simp only [seen] at polled
        by_cases same : p.poller.lastEndpointCandidatesEvent = cs
        · rw [if_pos same] at polled
          rw [run_cons, ih _ (by rw [Provider.poller_step_poll, polled]; exact subscribed) alive
            rest, Provider.poller_step_poll, polled, List.filterMap_cons, Event.observed, seen,
            ← same, changes_cons_self, List.getLastD_cons]
        · rw [if_neg same] at polled
          rw [run_cons, @ih _ { ch with sent := ch.sent ++ [cs] }
              (by rw [Provider.poller_step_poll, polled]) alive rest,
            Provider.poller_step_poll, polled, List.filterMap_cons, Event.observed, seen,
            changes_cons_of_ne same, List.getLastD_cons]
          simp
    | rx buf addr io => exact unchanged (Provider.poller_step_rx ..) rfl
    | subscribeForPongEvents tx => exact unchanged rfl rfl
    | subscribeForEndpointCandidatesChangeEvents tx => simp [Event.keepsSubscriber] at keeps
    | sendPing addr wgPort sessionId io => exact unchanged (Provider.poller_step_sendPing ..) rfl

/-- A poll on a machine with a loopback, a meshnet and a LAN address. -/
def lanPoll : PollIo :=
  ⟨⟨0, some { TelioWg.Interface.empty with listenPort := some 51820 }, true⟩, some 40000,
    some [⟨.v4 (Ipv4Addr.new 127 0 0 1)⟩, ⟨.v4 (Ipv4Addr.new 100 64 0 7)⟩,
      ⟨.v4 (Ipv4Addr.new 192 168 1 20)⟩]⟩

/-- A provider subscribed with a fresh channel. -/
def lanSubscribed : Provider := ⟨⟨none, []⟩, ⟨some ⟨[], true⟩, []⟩⟩

/-- Two polls that see the same interfaces. -/
theorem run_publishes_changes_lan :
    lanSubscribed.poller.endpointCandidatesChangePublisher = some ⟨[], true⟩ ∧
      (⟨[], true⟩ : Chan EndpointCandidatesChangeEvent).receiverAlive = true ∧
      (∀ e ∈ [Event.poll lanPoll, .poll lanPoll], e.keepsSubscriber = true) ∧
      (run (Provider.step pingTableRuntime) lanSubscribed [.poll lanPoll, .poll lanPoll]).poller =
        ⟨some { (⟨[], true⟩ : Chan EndpointCandidatesChangeEvent) with
            sent := [] ++ changes lanSubscribed.poller.lastEndpointCandidatesEvent
              ([Event.poll lanPoll, .poll lanPoll].filterMap Event.observed) },
          ([Event.poll lanPoll, .poll lanPoll].filterMap Event.observed).getLastD
            lanSubscribed.poller.lastEndpointCandidatesEvent⟩ :=
  ⟨rfl, rfl, by simp [Event.keepsSubscriber],
    run_publishes_changes pingTableRuntime [.poll lanPoll, .poll lanPoll] lanSubscribed rfl rfl
      (by simp [Event.keepsSubscriber])⟩

/-- The event hands over, if it replaces the candidates subscriber, a channel nothing was sent
on yet. -/
def Event.freshSubscriber : Event → Bool
  | .subscribeForEndpointCandidatesChangeEvents tx => tx.sent.isEmpty
  | _ => true

/-- What the candidates channel of a poller satisfies: it is settled with the list the poller
remembers, and every candidate it carries is one of a local IPv4 address, the same for both
ports. -/
def Poller.Publishes (s : Poller) : Prop :=
  ∀ ch, s.endpointCandidatesChangePublisher = some ch →
    Settled s.lastEndpointCandidatesEvent ch.sent ∧
      ∀ cs ∈ ch.sent, ∀ c ∈ cs, c.wg.ip = c.udp.ip ∧ localCandidate c.wg.ip = true

theorem Poller.Publishes.polled {s : Poller} (publishes : s.Publishes) (io : PollIo) :
    (s.polled io).Publishes := by
  unfold Poller.polled
  split
  · rename_i ch cs subscribed seen
    split_ifs with sends
    · intro ch' published
      cases published
      obtain ⟨settled, local_⟩ := publishes ch subscribed
      refine ⟨settled.append sends.1, ?_⟩
      intro cs' mem
      rcases List.mem_append.mp mem with old | new
      · exact local_ cs' old
      · rw [List.mem_singleton.mp new]
        exact fun c mem => PollIo.mem_candidates seen mem
    · exact publishes
  · exact publishes

/-- One event keeps the poller publishing as it should, if it hands over a fresh channel. -/
theorem Poller.Publishes.step (pb : Protobuf) {p : Provider} (publishes : p.poller.Publishes)
    {e : Event} (fresh : e.freshSubscriber = true) : (p.step pb e).poller.Publishes := by
  cases e with
  | poll io => rw [Provider.poller_step_poll]; exact publishes.polled io
  | rx buf addr io => rw [Provider.poller_step_rx]; exact publishes
  | subscribeForPongEvents tx => exact publishes
  | sendPing addr wgPort sessionId io => rw [Provider.poller_step_sendPing]; exact publishes
  | subscribeForEndpointCandidatesChangeEvents tx =>
    intro ch subscribed
    cases subscribed
    have empty : tx.sent = [] := List.isEmpty_iff.mp fresh
    refine ⟨empty ▸ settled_nil _, ?_⟩
    simp [empty]

/-- Over every run of the provider from its start whose subscribers come with fresh channels,
whatever it receives and however its polls end, the candidates channel never carries one list
twice in a row, its last list is the one the provider remembers, and every candidate it carries
is one of a non-loopback IPv4 address outside 100.64/10, the same address for both ports. -/
theorem run_candidates_settled (pb : Protobuf) (events : List Event)
    (fresh : ∀ e ∈ events, e.freshSubscriber = true) :
    (run (Provider.step pb) Provider.new events).poller.Publishes := by
  have start : Provider.new.poller.Publishes := fun _ subscribed => by cases subscribed
  exact run_invariant_of_admissible (P := fun p : Provider => p.poller.Publishes)
    (A := fun e => e.freshSubscriber = true) start
    (fun _ _ fresh publishes => publishes.step pb fresh) events fresh

/-- A subscriber replaced by a fresh one between two polls. -/
theorem run_candidates_settled_resubscribed :
    (∀ e ∈ [Event.subscribeForEndpointCandidatesChangeEvents ⟨[], true⟩, .poll lanPoll,
      .subscribeForEndpointCandidatesChangeEvents ⟨[], true⟩, .poll lanPoll],
        e.freshSubscriber = true) ∧
      (run (Provider.step pingTableRuntime) Provider.new
        [.subscribeForEndpointCandidatesChangeEvents ⟨[], true⟩, .poll lanPoll,
          .subscribeForEndpointCandidatesChangeEvents ⟨[], true⟩, .poll lanPoll]).poller.Publishes :=
  ⟨by simp [Event.freshSubscriber],
    run_candidates_settled pingTableRuntime _ (by simp [Event.freshSubscriber])⟩

end Local

end Libtelio.TelioTraversal.EndpointProviders
