/- Route choice by latency: the pongs a pinging entry receives, and `choose_route`.

   While an entry pings its candidates, `handle_pong_rx` writes a pong's latency against the
   candidate it came from, and only for a candidate and in the entry's traversal session; any
   other pong fails and leaves the entry alone. So every sequence of pongs keeps the entry
   pinging over the same candidates (`pongRun_sameRoute`). `choose_route` then takes, among the
   candidates with a latency, the first of least latency: it is `List.argmin` of the measured
   candidates, which Mathlib's lemmas bound below every other. -/

import Mathlib
import Libtelio.Lib.Run
import Libtelio.TelioTraversal.Routes.EntrySpec

set_option autoImplicit false
set_option relaxedAutoImplicit false
set_option mvcgen.warning false

namespace Libtelio.TelioTraversal.Routes

open Std.Do Libtelio.Net Libtelio.TelioProto Libtelio.Lib Libtelio.Lib.EState Libtelio.Lib.Run

namespace Entry

/-- The fields `is_pinging` checks. -/
def Pinging (e : Entry) : Prop :=
  e.state = .pingingByPing ∧ e.remoteEndpoint = none ∧ e.travSession.isSome ∧
    e.candidates.isSome ∧ e.txPeerId.isSome ∧ e.metric = none

/-- The latency recorded for a candidate. -/
def recorded (e : Entry) (addr : SocketAddr) : Option Duration :=
  match e.candidates with
  | some candidates => (candidates.lookup addr).join
  | none => none

/-- The candidate addresses. -/
def candidateAddrs (e : Entry) : Option (List SocketAddr) := e.candidates.map AList.keys

/-- What a pong accepted while pinging writes. -/
def recordPong (e : Entry) (addr : SocketAddr) (latency : Duration) (now : Instant) : Entry :=
  { e with candidates := e.candidates.map (·.replace addr (some latency)), lastRx := now }

/-- Pinging, in the session and over the candidates of `e0`. -/
def SameRoute (e0 e : Entry) : Prop :=
  e.Pinging ∧ e.travSession = e0.travSession ∧ e.candidateAddrs = e0.candidateAddrs

end Entry

/-- The latency `handle_pong_rx` reads off a pong's timestamp, in nanoseconds. -/
def pongLatency (pongTs : Timestamp) (io : Io) : Duration := (io.timestamp - pongTs).toNat * 1000

/-- A pong as `handle_pong_rx` receives it. -/
structure Pong where
  remoteAddr : SocketAddr
  session : Session
  ts : Timestamp
  io : Io

/-- The entry after one pong; an error is dropped by the caller. -/
def pongStep (e : Entry) (p : Pong) : Entry :=
  (runOn (handlePongRx p.remoteAddr p.session p.ts p.io) e).1

/-- What one pong does to a pinging entry: it records the pong's latency, if the pong is from a
candidate and in the entry's session; otherwise it fails and leaves the entry alone. -/
def PongStep (e : Entry) (p : Pong) : Entry × Except Error Unit → Prop
  | (e', .ok ()) =>
    p.ts < p.io.timestamp ∧ some p.session = e.travSession ∧
      (∃ candidates, e.candidates = some candidates ∧ p.remoteAddr ∈ candidates) ∧
      e' = e.recordPong p.remoteAddr (pongLatency p.ts p.io) p.io.now
  | (e', .error _) => e' = e

/-- What `choose_route` does to a pinging entry: with some latency recorded, it connects to a
candidate of least latency and makes that latency the metric; with none, it fails with
`EndpointCandidateMissing` and leaves the entry as it was. -/
def ChoosesFastest (e : Entry) (io : Io) : Entry × Except Error Unit → Prop
  | (e', r) =>
    ((∃ addr d, e.recorded addr = some d) →
      r = .ok () ∧ ∃ addr d, e.recorded addr = some d ∧
        (∀ other d', e.recorded other = some d' → d ≤ d') ∧
        e'.remoteEndpoint = some addr ∧ e'.metric.map Metric.latency = some (.measured d) ∧
        (e'.isConnected io.now).isSome) ∧
    ((∀ addr, e.recorded addr = none) → r = .error .endpointCandidateMissing ∧ e' = e)

/-! ### One pong -/

theorem handlePongRx_pinging (e0 : Entry) (p : Pong) :
    ⦃fun e => ⌜e = e0 ∧ e0.Pinging⌝⦄ handlePongRx p.remoteAddr p.session p.ts p.io
    ⦃post⟨fun _ e => ⌜PongStep e0 p (e, .ok ())⌝, fun err e => ⌜PongStep e0 p (e, .error err)⌝⟩⦄ := by
  mvcgen [handlePongRx]
  all_goals simp_all +zetaDelta [PongStep, Entry.recordPong, Entry.getTraversalSession,
    Entry.Pinging, pongLatency]

theorem pongStep_spec {e : Entry} (pinging : e.Pinging) (p : Pong) :
    PongStep e p (runOn (handlePongRx p.remoteAddr p.session p.ts p.io) e) := by
  have outcome := runOn_of_triple (handlePongRx_pinging e p) ⟨rfl, pinging⟩
  cases ran : runOn (handlePongRx p.remoteAddr p.session p.ts p.io) e with
  | mk e' r => cases r <;> simpa [ran] using outcome

theorem Entry.SameRoute.recordPong {e0 e : Entry} (same : e0.SameRoute e) (addr : SocketAddr)
    (latency : Duration) (now : Instant) : e0.SameRoute (e.recordPong addr latency now) := by
  obtain ⟨⟨state, remote, session, candidates, handshake, metric⟩, sameSession, sameAddrs⟩ := same
  refine ⟨⟨state, remote, session, by simpa [Entry.recordPong] using candidates, handshake,
    metric⟩, sameSession, ?_⟩
  rw [← sameAddrs]
  cases found : e.candidates <;> simp [Entry.recordPong, Entry.candidateAddrs, found]

/-- A pong keeps the entry pinging over the same route. -/
theorem Entry.SameRoute.pongStep {e0 e : Entry} (same : e0.SameRoute e) (p : Pong) :
    e0.SameRoute (pongStep e p) := by
  have step := pongStep_spec same.1 p
  unfold Routes.pongStep
  cases ran : runOn (handlePongRx p.remoteAddr p.session p.ts p.io) e with
  | mk e' r =>
    rw [ran] at step
    cases r with
    | ok _ => rw [step.2.2.2]; exact same.recordPong _ _ _
    | error _ => rw [show e' = e from step]; exact same

theorem pongRun_sameRoute {e : Entry} (pinging : e.Pinging) (pongs : List Pong) :
    e.SameRoute (run pongStep e pongs) :=
  run_invariant ⟨pinging, rfl, rfl⟩ (fun _ p same => same.pongStep p) pongs

/-! ### The choice -/

/-- The candidates that received a pong, with their latency. -/
def measured (candidates : AList (fun _ : SocketAddr => Option Duration)) :
    List (SocketAddr × Option Duration) :=
  (candidates.entries.filter fun c => c.2.isSome).map fun c => (c.1, c.2)

theorem chooseCandidate_eq_argmin (candidates : AList (fun _ : SocketAddr => Option Duration)) :
    chooseCandidate candidates = (measured candidates).argmin fun c => c.2.getD durationMax := by
  unfold chooseCandidate List.argmin
  dsimp only
  congr 1
  funext best c
  cases best <;> rfl

theorem mem_measured {candidates : AList (fun _ : SocketAddr => Option Duration)}
    {addr : SocketAddr} {latency : Option Duration} :
    (addr, latency) ∈ measured candidates ↔
      latency.isSome ∧ candidates.lookup addr = some latency := by
  rw [← Option.mem_def, AList.mem_lookup_iff]
  simp only [measured, List.mem_map, List.mem_filter, Prod.mk.injEq]
  constructor
  · rintro ⟨⟨a, l⟩, ⟨member, hasLatency⟩, rfl, rfl⟩
    exact ⟨hasLatency, member⟩
  · rintro ⟨hasLatency, member⟩
    exact ⟨⟨addr, latency⟩, ⟨member, hasLatency⟩, rfl, rfl⟩

/-- The candidate `choose_route` picks has a latency, and none has a smaller one. -/
theorem chooseCandidate_eq_some {candidates : AList (fun _ : SocketAddr => Option Duration)}
    {addr : SocketAddr} {latency : Option Duration}
    (chosen : chooseCandidate candidates = some (addr, latency)) :
    ∃ d, latency = some d ∧ (candidates.lookup addr).join = some d ∧
      ∀ other d', (candidates.lookup other).join = some d' → d ≤ d' := by
  rw [chooseCandidate_eq_argmin] at chosen
  have member := List.argmin_mem chosen
  obtain ⟨hasLatency, found⟩ := mem_measured.mp member
  obtain ⟨d, rfl⟩ := Option.isSome_iff_exists.mp hasLatency
  refine ⟨d, rfl, by simp [found], fun other d' recordedOther => ?_⟩
  have otherFound : candidates.lookup other = some (some d') := by
    cases h : candidates.lookup other <;> simp_all
  have least := List.le_of_mem_argmin (mem_measured.mpr ⟨rfl, otherFound⟩) chosen
  simpa using least

theorem chooseCandidate_eq_none {candidates : AList (fun _ : SocketAddr => Option Duration)} :
    chooseCandidate candidates = none ↔ ∀ addr, (candidates.lookup addr).join = none := by
  rw [chooseCandidate_eq_argmin, List.argmin_eq_none, List.eq_nil_iff_forall_not_mem]
  constructor
  · intro unmeasured addr
    cases found : candidates.lookup addr with
    | none => rfl
    | some latency =>
      cases latency with
      | none => rfl
      | some d => exact absurd (mem_measured.mpr ⟨rfl, found⟩) (unmeasured _)
  · rintro unrecorded ⟨addr, latency⟩ member
    obtain ⟨hasLatency, found⟩ := mem_measured.mp member
    obtain ⟨d, rfl⟩ := Option.isSome_iff_exists.mp hasLatency
    simpa [found] using unrecorded addr

theorem chooseRoute_pinging (e0 : Entry) (io : Io) :
    ⦃fun e => ⌜e = e0 ∧ e0.Pinging⌝⦄ chooseRoute io
    ⦃post⟨fun _ e => ⌜∃ candidates addr d, e0.candidates = some candidates ∧
        chooseCandidate candidates = some (addr, some d) ∧ e.remoteEndpoint = some addr ∧
        e.metric.map Metric.latency = some (.measured d) ∧ (e.isConnected io.now).isSome⌝,
      fun err e => ⌜err = .endpointCandidateMissing ∧ e = e0 ∧
        ∀ candidates, e0.candidates = some candidates → chooseCandidate candidates = none⌝⟩⦄ := by
  mvcgen [chooseRoute, connectRoute, updateMetric]
  -- a chosen candidate has a latency, so the branch that measures an unknown one is dead
  all_goals try obtain ⟨d, rfl, -⟩ := chooseCandidate_eq_some ‹chooseCandidate _ = some _›
  all_goals simp_all +zetaDelta [Entry.Pinging, Entry.isCmmHandshakeComplete, Entry.switchRoute,
    Entry.matchesOldState]

theorem chooseRoute_fastest {e : Entry} (pinging : e.Pinging) (io : Io) :
    ChoosesFastest e io (runOn (chooseRoute io) e) := by
  have outcome := runOn_of_triple (chooseRoute_pinging e io) ⟨rfl, pinging⟩
  obtain ⟨candidates, found⟩ := Option.isSome_iff_exists.mp pinging.2.2.2.1
  have recorded (addr : SocketAddr) : e.recorded addr = (candidates.lookup addr).join := by
    simp [Entry.recorded, found]
  cases ran : runOn (chooseRoute io) e with
  | mk e' r =>
    rw [ran] at outcome
    cases r with
    | ok _ =>
      obtain ⟨c, addr, d, same, chosen, remote, metric, connected⟩ := outcome
      rw [found, Option.some.injEq] at same
      subst same
      obtain ⟨d', latency, recordedAddr, least⟩ := chooseCandidate_eq_some chosen
      cases latency
      refine ⟨fun _ => ⟨rfl, addr, d, (recorded addr).trans recordedAddr,
        fun other d' h => least other d' ((recorded other).symm.trans h), remote, metric,
        connected⟩, fun unrecorded => ?_⟩
      -- the chosen candidate has a latency, so some latency is recorded
      have := (recorded addr).trans recordedAddr
      rw [unrecorded addr] at this
      cases this
    | error err =>
      obtain ⟨rfl, rfl, unchosen⟩ := outcome
      have nothing := chooseCandidate_eq_none.mp (unchosen candidates found)
      refine ⟨fun ⟨addr, d, h⟩ => ?_, fun _ => ⟨rfl, rfl⟩⟩
      rw [recorded, nothing] at h
      cases h

/-- Every sequence of pongs keeps a pinging entry pinging over the same candidates and session;
each pong records its latency only for a candidate and in that session, and fails otherwise
with the entry unchanged; and `choose_route` then connects to a candidate of least recorded
latency with that latency as the metric, or, with none recorded, fails with
`EndpointCandidateMissing` and leaves the entry as it was. -/
theorem pong_latency_route_choice (e : Entry) (pinging : e.Pinging) (pongs : List Pong)
    (io : Io) :
    e.SameRoute (run pongStep e pongs) ∧
      (∀ p : Pong, PongStep (run pongStep e pongs) p
        (runOn (handlePongRx p.remoteAddr p.session p.ts p.io) (run pongStep e pongs))) ∧
      ChoosesFastest (run pongStep e pongs) io (runOn (chooseRoute io) (run pongStep e pongs)) := by
  have same := pongRun_sameRoute pinging pongs
  exact ⟨same, pongStep_spec same.1, chooseRoute_fastest same.1 io⟩

/-- Two candidates being pinged in session 7. -/
def pingingTwo : Entry :=
  { txPeerId := some ⟨2⟩, rxPeerId := ⟨1⟩, remoteEndpoint := none, lastRx := 0,
    lastSmTransition := 0, state := .pingingByPing, travSession := some 7,
    candidates := some (newCandidates [⟨.v4 ⟨1⟩, 1⟩, ⟨.v4 ⟨2⟩, 2⟩]),
    pk := TelioCrypto.PublicKey.filled 1, metric := none }

/-- A pong from the second candidate, in the entry's session. -/
def pongFromSecond : Pong where
  remoteAddr := ⟨.v4 ⟨2⟩, 2⟩
  session := 7
  ts := 10
  io := { now := 5, timestamp := 30, session := 9,
          controlSendOk := true, socketSendOk := true, stunnerSendOk := true }

theorem pong_latency_route_choice_pingingTwo :
    pingingTwo.Pinging ∧ pingingTwo.SameRoute (run pongStep pingingTwo [pongFromSecond]) :=
  ⟨⟨rfl, rfl, rfl, rfl, rfl, rfl⟩,
    (pong_latency_route_choice pingingTwo ⟨rfl, rfl, rfl, rfl, rfl, rfl⟩ [pongFromSecond]
      pongFromSecond.io).1⟩

end Libtelio.TelioTraversal.Routes
