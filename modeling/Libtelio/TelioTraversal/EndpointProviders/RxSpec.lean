/- What the endpoint providers make of a datagram.

   A pong to the provider's own ping is published with `Duration::from_millis` of the difference
   of two microsecond stamps: the round trip time is a thousand times the latency the route
   entry records from the same pong, and a pong stamped after the clock's reading wraps the
   difference where `handle_pong_rx` refuses it (`pong_rtt_in_millis`).

   A STUN session ends only on its timer, on a new configuration, or on a datagram that resolves
   its last request or fails to decode (`step_session`). `try_handle_stun_rx` takes the session
   before `try_consume`, whose `?` returns with it taken: a stray datagram from one of the
   session's servers ends the session, and the answers that follow find none
   (`stun_error_drops_session`). -/

import Libtelio.TelioTraversal.EndpointProviders.Stun
import Libtelio.TelioTraversal.Routes.RouteChoice

set_option autoImplicit false
set_option relaxedAutoImplicit false
set_option mvcgen.warning false

namespace Libtelio.TelioTraversal.EndpointProviders

open Std.Do Libtelio.Net Libtelio.TelioProto Libtelio.Lib.EState Libtelio.Lib.Run
open Libtelio.TelioTraversal.Routes.Stunner (TransactionId)

/-! ### Pongs -/

section Pongs

variable {pb : Protobuf} (roundTrips : pb.RoundTrips)
include roundTrips

end Pongs

end Libtelio.TelioTraversal.EndpointProviders

namespace Libtelio.TelioTraversal.EndpointProviders.Stun

open Std.Do Libtelio.Net Libtelio.TelioProto Libtelio.Lib.EState Libtelio.Lib.Run

/-! ### Sessions -/

variable (codec : StunCodec) (payload : List UInt8) (srcAddr : SocketAddr)

theorem tryUpdate_spec (r0 : StunRequest) :
    ⦃fun r => ⌜r = r0⌝⦄ StunRequest.tryUpdate codec payload srcAddr
    ⦃post⟨fun taken r => ⌜if taken then ∃ tid sa, r0 = .waiting srcAddr tid ∧
        codec.decodeResponse payload = some (sa, tid) ∧ r = .result sa else r = r0⌝,
      fun e r => ⌜e = .byteCodecError ∧ r = r0 ∧ (∃ tid, r0 = .waiting srcAddr tid) ∧
        codec.decodeResponse payload = none⌝⟩⦄ := by
  mvcgen [StunRequest.tryUpdate]
  all_goals subst_vars
  all_goals simp_all [Prod.ext_iff]

theorem tryUpdate_wg_spec (s0 : StunSession) :
    ⦃fun s => ⌜s = s0⌝⦄
      zoom (·.wg) (fun self wg => { self with wg }) (StunRequest.tryUpdate codec payload srcAddr)
    ⦃post⟨fun taken s => ⌜∃ r, s = { s0 with wg := r } ∧ if taken then ∃ tid sa,
        s0.wg = .waiting srcAddr tid ∧ codec.decodeResponse payload = some (sa, tid) ∧
        r = .result sa else r = s0.wg⌝,
      fun e s => ⌜∃ r, s = { s0 with wg := r } ∧ e = .byteCodecError ∧ r = s0.wg ∧
        (∃ tid, s0.wg = .waiting srcAddr tid) ∧ codec.decodeResponse payload = none⌝⟩⦄ :=
  zoom_spec _ _ s0 (tryUpdate_spec codec payload srcAddr s0.wg)

theorem tryUpdate_udp_spec (s0 : StunSession) :
    ⦃fun s => ⌜s = s0⌝⦄
      zoom (·.udp) (fun self udp => { self with udp }) (StunRequest.tryUpdate codec payload srcAddr)
    ⦃post⟨fun taken s => ⌜∃ r, s = { s0 with udp := r } ∧ if taken then ∃ tid sa,
        s0.udp = .waiting srcAddr tid ∧ codec.decodeResponse payload = some (sa, tid) ∧
        r = .result sa else r = s0.udp⌝,
      fun e s => ⌜∃ r, s = { s0 with udp := r } ∧ e = .byteCodecError ∧ r = s0.udp ∧
        (∃ tid, s0.udp = .waiting srcAddr tid) ∧ codec.decodeResponse payload = none⌝⟩⦄ :=
  zoom_spec _ _ s0 (tryUpdate_spec codec payload srcAddr s0.udp)

theorem tryConsume_spec (s0 : StunSession) :
    ⦃fun s => ⌜s = s0⌝⦄ StunSession.tryConsume codec payload srcAddr
    ⦃post⟨fun result s => ⌜(∀ c, result = .final c → s.wg = .result c.wg ∧ s.udp = .result c.udp) ∧
        (result = .skipped → s = s0)⌝,
      fun e s => ⌜e = .byteCodecError ∧ s = s0 ∧ codec.decodeResponse payload = none ∧
        ∃ tid, s0.wg = .waiting srcAddr tid ∨ s0.udp = .waiting srcAddr tid⌝⟩⦄ := by
  mvcgen [StunSession.tryConsume, tryUpdate_wg_spec, tryUpdate_udp_spec]
  all_goals simp_all


theorem tryConsume_skipped {s0 : StunSession}
    (skipped : (runOn (StunSession.tryConsume codec payload srcAddr) s0).2 = .ok .skipped) :
    (runOn (StunSession.tryConsume codec payload srcAddr) s0).1 = s0 := by
  have outcome := runOn_of_triple (tryConsume_spec codec payload srcAddr s0) rfl
  generalize runOn (StunSession.tryConsume codec payload srcAddr) s0 = ran at outcome skipped ⊢
  obtain ⟨s, _ | _⟩ := ran
  · cases skipped
  · simp_all

/-- The datagram ends the session: it resolves the last request, or it fails to decode. -/
def Consumes (s0 : StunSession) (payload : List UInt8) (srcAddr : SocketAddr) : Prop :=
  match (runOn (StunSession.tryConsume codec payload srcAddr) s0).2 with
  | .ok (.final _) => True
  | .ok _ => False
  | .error _ => True

theorem consumes_iff {s0 : StunSession} :
    Consumes codec s0 payload srcAddr ↔
      (∃ c, (runOn (StunSession.tryConsume codec payload srcAddr) s0).2 = .ok (.final c)) ∨
        ∃ e, (runOn (StunSession.tryConsume codec payload srcAddr) s0).2 = .error e := by
  unfold Consumes
  split <;> simp_all

/-- `r` has a session unless `r0` had none or a session of `r0` ended on the datagram. -/
def EndsOnlyOn (payload : List UInt8) (srcAddr : SocketAddr) (r0 r : State) : Prop :=
  r.stunSession = none →
    r0.stunSession = none ∨ ∃ s0, r0.stunSession = some s0 ∧ Consumes codec s0 payload srcAddr

theorem tryHandleStunRx_spec (r0 : State) :
    ⦃fun r => ⌜r = r0⌝⦄ tryHandleStunRx codec payload srcAddr
    ⦃post⟨fun taken r => ⌜(taken = false → r = r0) ∧ EndsOnlyOn codec payload srcAddr r0 r⌝,
      fun e r => ⌜r.stunSession = none ∧ ∃ s0, r0.stunSession = some s0 ∧
        (((runOn (StunSession.tryConsume codec payload srcAddr) s0).2 = .error e ∧
          r = { r0 with stunSession := none }) ∨
        ∃ c, (runOn (StunSession.tryConsume codec payload srcAddr) s0).2 = .ok (.final c))⌝⟩⦄ := by
  cases r0
  mvcgen [tryHandleStunRx, tryOk]
  all_goals simp_all +zetaDelta [tryConsume_skipped, EndsOnlyOn, consumes_iff]

theorem tryHandleStunRx_ends (r0 : State) :
    ⦃fun r => ⌜r = r0⌝⦄ tryHandleStunRx codec payload srcAddr
    ⦃post⟨fun _ r => ⌜EndsOnlyOn codec payload srcAddr r0 r⌝,
      fun _ r => ⌜EndsOnlyOn codec payload srcAddr r0 r⌝⟩⦄ := by
  cases r0
  mvcgen [tryHandleStunRx, tryOk]
  all_goals simp_all +zetaDelta [tryConsume_skipped, EndsOnlyOn, consumes_iff]

/-- A resolved session is not put back, and its candidate is published exactly when it is not
the last one published. -/
theorem tryHandleStunRx_final {r0 : State} {s0 : StunSession}
    (running : r0.stunSession = some s0) {s' : StunSession} {c : EndpointCandidate}
    (final : runOn (StunSession.tryConsume codec payload srcAddr) s0 = (s', .ok (.final c)))
    {tx : Chan (List EndpointCandidate)} (subscribed : r0.changeEvent = some tx)
    (alive : tx.receiverAlive = true) :
    ⦃fun r => ⌜r = r0⌝⦄ tryHandleStunRx codec payload srcAddr
    ⦃post⟨fun taken r => ⌜taken = true ∧
        r = if r0.lastCandidates = [c] then { r0 with stunSession := none }
          else { r0 with
            stunSession := none
            lastCandidates := [c]
            changeEvent := some { tx with sent := tx.sent ++ [[c]] } }⌝,
      fun _ _ => ⌜False⌝⟩⦄ := by
  mvcgen [tryHandleStunRx, tryOk]
  all_goals simp_all +zetaDelta

theorem sendTo_session (via : Socket) (buf : List UInt8) (addr : SocketAddr) (io : Io)
    (session : Option StunSession) :
    ⦃fun s => ⌜s.stunSession = session⌝⦄ sendTo via buf addr io
    ⦃post⟨fun _ s => ⌜s.stunSession = session⌝, fun _ s => ⌜s.stunSession = session⌝⟩⦄ := by
  mvcgen [sendTo]

variable (pb : Protobuf)

theorem handlePingRx_session (io : Io) (session : Option StunSession) :
    ⦃fun s => ⌜s.stunSession = session⌝⦄ handlePingRx pb payload srcAddr io
    ⦃post⟨fun _ s => ⌜s.stunSession = session⌝, fun _ s => ⌜s.stunSession = session⌝⟩⦄ := by
  unfold handlePingRx
  exact handlePinger_invariant pb (sendTo .ext) (·.pongEvent)
    (fun self tx => { self with pongEvent := some tx })
    (fun buf addr io => sendTo_session .ext buf addr io session) (fun _ _ kept => kept)
    payload srcAddr io

theorem handleRx_session (io : Io) (r0 : State) :
    ⦃fun r => ⌜r = r0⌝⦄ handleRx codec pb payload srcAddr io
    ⦃post⟨fun _ r => ⌜EndsOnlyOn codec payload srcAddr r0 r⌝,
      fun _ r => ⌜EndsOnlyOn codec payload srcAddr r0 r⌝⟩⦄ := by
  mvcgen [handleRx, tryHandleStunRx_spec, handlePingRx_session]
  all_goals subst_vars
  all_goals simp_all [EndsOnlyOn, consumes_iff]
  -- an error of the session's part: the datagram failed or resolved it
  rintro - s0 - (⟨failed, -⟩ | final)
  exacts [.inr ⟨_, failed⟩, .inl final]

theorem startStunSession_running {r0 : State} {s0 : StunSession}
    (running : r0.stunSession = some s0) (io : StunIo) :
    runOn (startStunSession codec io) r0 = (r0, .ok ()) := by
  simp [startStunSession, runOn, running]

/-- A session ends only on the session's timer, on a new configuration, or on a datagram that
resolves its last request or fails to decode. -/
theorem step_session (r0 : State) (ev : Event) (ended : (step codec pb r0 ev).stunSession = none) :
    r0.stunSession = none ∨ ev = .timeout ∨ (∃ config io, ev = .configure config io) ∨
      ∃ s0 payload srcAddr, r0.stunSession = some s0 ∧ Consumes codec s0 payload srcAddr ∧
        (ev = .tunRx payload srcAddr ∨ ∃ io, ev = .extRx payload srcAddr io) := by
  cases ev with
  | extRx payload srcAddr io =>
    rcases state_runOn_of_triple (handleRx_session codec payload srcAddr pb io r0) rfl ended with
      none | ⟨s0, running, consumes⟩
    · exact .inl none
    · exact .inr (.inr (.inr ⟨s0, payload, srcAddr, running, consumes, .inr ⟨io, rfl⟩⟩))
  | tunRx payload srcAddr =>
    rcases state_runOn_of_triple (tryHandleStunRx_ends codec payload srcAddr r0) rfl ended with
      none | ⟨s0, running, consumes⟩
    · exact .inl none
    · exact .inr (.inr (.inr ⟨s0, payload, srcAddr, running, consumes, .inl rfl⟩))
  | timeout => exact .inr (.inl rfl)
  | tick io =>
    left
    cases running : r0.stunSession with
    | none => rfl
    | some s0 =>
      -- a running session is kept, so the tick cannot have ended it
      simp [step, startStunSession_running codec running, running] at ended
  | configure config io => exact .inr (.inr (.inl ⟨config, io, rfl⟩))
  | sendPing addr wgPort sessionId io =>
    left
    rw [← ended]
    exact (state_runOn_of_triple (sendPingVia_invariant pb (sendTo .ext)
      (fun buf addr io => sendTo_session .ext buf addr io r0.stunSession) addr wgPort sessionId io)
      rfl).symm
  | subscribePong tx => exact .inl ended
  | subscribeChange tx => exact .inl ended

end Libtelio.TelioTraversal.EndpointProviders.Stun

namespace Libtelio.TelioTraversal.EndpointProviders

open Libtelio.Net Libtelio.TelioProto Libtelio.Lib.EState Libtelio.Lib.Run
open Libtelio.TelioTraversal.Routes.Stunner (TransactionId)

/-- A transaction id of twelve equal bytes. -/
def tidOf (n : UInt8) : TransactionId := ⟨Vector.replicate 12 n⟩

/-- A STUN codec whose request is its transaction id, and whose response is the transaction id,
mapped to 5.6.7.8:4000. -/
def echoCodec : Stun.StunCodec where
  newRequest tid := tid.bytes.toList
  decodeResponse bytes :=
    if h : bytes.length = 12 then
      some (⟨.v4 (Ipv4Addr.new 5 6 7 8), 4000⟩, ⟨⟨bytes.toArray, by simpa using h⟩⟩)
    else none

def stunPeerKey : TelioCrypto.PublicKey := TelioCrypto.PublicKey.filled 5

/-- The stun peer: its STUN server behind 10.0.0.1, its own address 1.2.3.4:51820. -/
def stunInterface : TelioWg.Interface :=
  ⟨none, some 51820, 0, (∅ : TelioWg.Peers).insert stunPeerKey
    ⟨stunPeerKey, some ⟨.v4 (Ipv4Addr.new 1 2 3 4), 51820⟩, none,
      [IpNetwork.ofIpAddr (.v4 (Ipv4Addr.new 10 0 0 1))], none, none, none⟩⟩

def wgServer : SocketAddr := ⟨.v4 (Ipv4Addr.new 10 0 0 1), 3479⟩

def udpServer : SocketAddr := ⟨.v4 (Ipv4Addr.new 1 2 3 4), 3478⟩

def stunIo : Stun.StunIo := ⟨⟨0, some stunInterface, true⟩, tidOf 1, tidOf 2⟩

/-- Configured and subscribed for candidates, with no session yet. -/
def stunReady : Stun.State :=
  ⟨some ⟨stunPeerKey, 3478, some 3479⟩, some ⟨[], true⟩, none, none, [], []⟩

/-- A session started, then the two answers. -/
def answered : List Stun.Event :=
  [.tick stunIo, .tunRx (tidOf 1).bytes.toList wgServer,
    .extRx (tidOf 2).bytes.toList udpServer stunIo.toIo]

/-- The same, with a stray datagram from the plain server before the answers. -/
def strayFirst : List Stun.Event :=
  [.tick stunIo, .extRx [0] udpServer stunIo.toIo, .tunRx (tidOf 1).bytes.toList wgServer,
    .extRx (tidOf 2).bytes.toList udpServer stunIo.toIo]

/-- The provider once the session is started. -/
def sessionStarted : Stun.State := run (Stun.step echoCodec pingerOnly) stunReady [.tick stunIo]

/-- The stray datagram from the plain server ends the session the tick started: it fails to
decode. -/
theorem step_session_stray :
    let started := run (Stun.step echoCodec pingTableRuntime) stunReady [.tick stunIo]
    let stray : Stun.Event := .extRx [0] udpServer stunIo.toIo
    (Stun.step echoCodec pingTableRuntime started stray).stunSession = none ∧
      (started.stunSession = none ∨ stray = .timeout ∨ (∃ config io, stray = .configure config io) ∨
        ∃ s0 payload srcAddr, started.stunSession = some s0 ∧
          Stun.Consumes echoCodec s0 payload srcAddr ∧
          (stray = .tunRx payload srcAddr ∨ ∃ io, stray = .extRx payload srcAddr io)) :=
  have ended : (Stun.step echoCodec pingTableRuntime
      (run (Stun.step echoCodec pingTableRuntime) stunReady [.tick stunIo])
      (.extRx [0] udpServer stunIo.toIo)).stunSession = none := by decide
  ⟨ended, Stun.step_session echoCodec pingTableRuntime _ _ ended⟩

def mappedCandidate : EndpointCandidate :=
  ⟨⟨.v4 (Ipv4Addr.new 5 6 7 8), 4000⟩, ⟨.v4 (Ipv4Addr.new 5 6 7 8), 4000⟩⟩

/-- A datagram from the plain server that does not decode is an error of `try_handle_stun_rx`,
which leaves no session: the two answers then publish nothing, where without it they publish
the candidate. -/
theorem stun_error_drops_session :
    sessionStarted.stunSession.isSome = true ∧
      (runOn (Stun.tryHandleStunRx echoCodec [0] udpServer) sessionStarted).2 =
        .error .byteCodecError ∧
      (runOn (Stun.tryHandleStunRx echoCodec [0] udpServer) sessionStarted).1.stunSession = none ∧
      (run (Stun.step echoCodec pingerOnly) stunReady answered).changeEvent.map (·.sent) =
        some [[mappedCandidate]] ∧
      (run (Stun.step echoCodec pingerOnly) stunReady strayFirst).changeEvent.map (·.sent) =
        some [] ∧
      (run (Stun.step echoCodec pingerOnly) stunReady strayFirst).stunSession = none := by
  decide

/-- The second candidate of `pingingTwo`, and its pong in session 7 to a ping stamped `sentAt`. -/
def peerAddr : SocketAddr := ⟨.v4 ⟨2⟩, 2⟩

def pongBytes (sentAt : Timestamp) : List UInt8 :=
  match (Packet.pinger ⟨⟨4000⟩, ⟨.pong, 7, sentAt⟩⟩).encode pingerOnly with
  | .ok bytes => bytes
  | .error _ => []

def clockAt (now : Timestamp) : Io := ⟨now, none, true⟩

def routeClockAt (now : Timestamp) : Routes.Io :=
  { now := 5, timestamp := now, session := 9, controlSendOk := true, socketSendOk := true,
    stunnerSendOk := true }

def localSubscribed : Local.State := ⟨some ⟨[], true⟩, []⟩

def stunSubscribed : Stun.State := ⟨none, none, some ⟨[], true⟩, none, [], []⟩

/-- The pong to a ping stamped at 1000 µs, received at 1001 µs: both providers publish a round
trip of 1 ms, where the route entry records 1 µs for the same pong; and a pong stamped at
1002 µs gives a round trip of almost 2 ^ 64 ms, where the entry refuses it. -/
theorem pong_rtt_in_millis :
    (PingerMsg.ping ⟨51820⟩ 7 1000).pong ⟨4000⟩ = some ⟨⟨4000⟩, ⟨.pong, 7, 1000⟩⟩ ∧
      (runOn (Local.handleRxPacket pingerOnly (pongBytes 1000) peerAddr (clockAt 1001))
        localSubscribed).1.pongPublisher.map (·.sent.map (·.rtt)) = some [1000000] ∧
      (runOn (Stun.handleRx echoCodec pingerOnly (pongBytes 1000) peerAddr (clockAt 1001))
        stunSubscribed).1.pongEvent.map (·.sent.map (·.rtt)) = some [1000000] ∧
      (runOn (Routes.handlePongRx peerAddr 7 1000 (routeClockAt 1001))
        Routes.pingingTwo).1.recorded peerAddr = some 1000 ∧
      (runOn (Local.handleRxPacket pingerOnly (pongBytes 1002) peerAddr (clockAt 1001))
        localSubscribed).1.pongPublisher.map (·.sent.map (·.rtt)) =
        some [(2 ^ 64 - 1) * 1000000] ∧
      (runOn (Routes.handlePongRx peerAddr 7 1002 (routeClockAt 1001)) Routes.pingingTwo).2 =
        .error .invalidTimestamp := by
  decide

end Libtelio.TelioTraversal.EndpointProviders
