/- The representation invariant of a route entry, and a Hoare triple for each method.

   `Entry.Inv` says which of the optional fields is present, as a function of the route
   state: an endpoint and a metric exactly when connected, a traversal session exactly while
   the call-me-maybe handshake or the pinging runs, candidates exactly while pinging, and a
   peer id to send with in the last two states. Under it each entry passes exactly the one of
   `is_disconnected`, `is_sent_cmm`, `is_pinging`, `is_connected` that names its state
   (`Inv.routeChecks_eq`).

   Every method keeps the invariant on both exits, also when it fails after changing the
   state; `start_pinging` needs the peer id, which its one caller records just before. The
   triples are proved by `mvcgen`, each naming the triples of the methods it calls. -/

import Mathlib
import Libtelio.TelioTraversal.Routes.Database

set_option autoImplicit false
set_option relaxedAutoImplicit false
set_option mvcgen.warning false

namespace Libtelio.TelioTraversal.Routes

open Std.Do Libtelio.Net Libtelio.TelioProto

namespace Entry

/-- The fields an entry holds in each route state. -/
@[mk_iff] structure Inv (e : Entry) : Prop where
  remoteEndpoint : e.remoteEndpoint.isSome ↔ e.state = .connectedByActivate
  metric : e.metric.isSome ↔ e.state = .connectedByActivate
  travSession :
    e.travSession.isSome ↔ e.state = .sentCallMeMaybeByStart ∨ e.state = .pingingByPing
  candidates : e.candidates.isSome ↔ e.state = .pingingByPing
  handshake : e.state = .pingingByPing ∨ e.state = .connectedByActivate → e.txPeerId.isSome

/-- Which of `is_disconnected`, `is_sent_cmm`, `is_pinging` and `is_connected` hold. -/
def routeChecks (e : Entry) (now : Instant) : List Bool :=
  [(e.isDisconnected now).isSome, (e.isSentCmm now).isSome, (e.isPinging now).isSome,
    (e.isConnected now).isSome]

end Entry

/-- The one check a route state answers to. -/
def RouteState.expectedChecks : RouteState → List Bool
  | .initialDisconnected | .disconnectedByBreak => [true, false, false, false]
  | .sentCallMeMaybeByStart => [false, true, false, false]
  | .pingingByPing => [false, false, true, false]
  | .connectedByActivate => [false, false, false, true]

namespace Entry

variable {e : Entry}

/-- Under the invariant an entry passes exactly the check of its state. -/
theorem Inv.routeChecks_eq (inv : e.Inv) (now : Instant) :
    e.routeChecks now = e.state.expectedChecks := by
  obtain ⟨remote, metric, session, candidates, handshake⟩ := inv
  -- each state fixes every field the checks read
  cases h : e.state <;> simp_all [routeChecks, RouteState.expectedChecks]

theorem inv_new (rxPeerId : PeerId) (pk : TelioCrypto.PublicKey) (now : Instant) :
    (Entry.new rxPeerId pk now).Inv := by
  simp [inv_iff, Entry.new]

/-- `disconnect_route` leaves a valid entry, whatever it started from. -/
theorem inv_disconnectRoute (e : Entry) (now : Instant) : (e.disconnectRoute now).Inv := by
  by_cases h : e.state = .initialDisconnected <;> simp [inv_iff, h]

/-- Recording the peer id keeps the invariant: it only ever enables a state. -/
theorem Inv.setTxPeerId (inv : e.Inv) (txPeerId : PeerId) :
    ({ e with txPeerId := some txPeerId } : Entry).Inv :=
  { inv with handshake := fun _ => rfl }

end Entry

theorem updateMetric_spec (latency : Latency) (now : Instant) :
    ⦃fun e => ⌜e.Inv⌝⦄ updateMetric latency now
    ⦃post⟨fun _ e => ⌜e.Inv⌝, fun _ e => ⌜e.Inv⌝⟩⦄ := by
  mvcgen [updateMetric]
  all_goals simp_all +zetaDelta [Entry.inv_iff]

theorem startMeasuringMetric_spec (io : Io) :
    ⦃fun e => ⌜e.Inv⌝⦄ startMeasuringMetric io
    ⦃post⟨fun _ e => ⌜e.Inv⌝, fun _ e => ⌜e.Inv⌝⟩⦄ := by
  mvcgen [startMeasuringMetric, pingEndpoints, updateMetric_spec]
  all_goals simp_all +zetaDelta [Entry.inv_iff, Entry.isMeasuringMetric]

theorem startSentCallMeMaybe_spec (io : Io) :
    ⦃fun e => ⌜e.Inv⌝⦄ startSentCallMeMaybe io
    ⦃post⟨fun _ e => ⌜e.Inv⌝, fun _ e => ⌜e.Inv⌝⟩⦄ := by
  mvcgen [startSentCallMeMaybe]
  -- the branch that is left names the state `disconnect_route` produced
  all_goals subst_vars
  all_goals simp_all +zetaDelta [Entry.inv_iff]

/-- `start_pinging` sets the state before it looks for the peer id: without one it would
leave a pinging entry that no check accepts. -/
theorem startPinging_spec (endpoints : List SocketAddr) (io : Io) :
    ⦃fun e => ⌜e.Inv ∧ e.txPeerId.isSome⌝⦄ startPinging endpoints io
    ⦃post⟨fun _ e => ⌜e.Inv⌝, fun _ e => ⌜e.Inv⌝⟩⦄ := by
  mvcgen [startPinging]
  all_goals simp_all +zetaDelta [Entry.inv_iff]

theorem connectRoute_spec (endpoint : SocketAddr) (latency : Latency) (io : Io) :
    ⦃fun e => ⌜e.Inv⌝⦄ connectRoute endpoint latency io
    ⦃post⟨fun _ e => ⌜e.Inv⌝, fun _ e => ⌜e.Inv⌝⟩⦄ := by
  mvcgen [connectRoute, updateMetric_spec, startMeasuringMetric_spec]
  all_goals simp_all +zetaDelta [Entry.inv_iff, Entry.isCmmHandshakeComplete,
    Option.isSome_iff_ne_none]

theorem chooseRoute_spec (io : Io) :
    ⦃fun e => ⌜e.Inv⌝⦄ chooseRoute io ⦃post⟨fun _ e => ⌜e.Inv⌝, fun _ e => ⌜e.Inv⌝⟩⦄ := by
  mvcgen [chooseRoute, connectRoute_spec]

theorem handleDataPacketRx_spec (remoteAddr : SocketAddr) (io : Io) :
    ⦃fun e => ⌜e.Inv⌝⦄ handleDataPacketRx remoteAddr io
    ⦃post⟨fun _ e => ⌜e.Inv⌝, fun _ e => ⌜e.Inv⌝⟩⦄ := by
  mvcgen [handleDataPacketRx, connectRoute_spec]
  all_goals simp_all +zetaDelta [Entry.inv_iff]

theorem handlePongRx_spec (remoteAddr : SocketAddr) (pongSess : Session) (pongTs : Timestamp)
    (io : Io) :
    ⦃fun e => ⌜e.Inv⌝⦄ handlePongRx remoteAddr pongSess pongTs io
    ⦃post⟨fun _ e => ⌜e.Inv⌝, fun _ e => ⌜e.Inv⌝⟩⦄ := by
  mvcgen [handlePongRx, updateMetric_spec]
  all_goals simp_all +zetaDelta [Entry.inv_iff]

theorem handleCmmInitRx_spec :
    ⦃fun e => ⌜e.Inv⌝⦄ handleCmmInitRx ⦃post⟨fun _ e => ⌜e.Inv⌝, fun _ e => ⌜e.Inv⌝⟩⦄ := by
  mvcgen [handleCmmInitRx]

end Libtelio.TelioTraversal.Routes
