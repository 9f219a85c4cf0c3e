/- Which tunnel meets which server, and what a response does to the results.

   `Interface::reset` builds the WireGuard tunnel for the current server, and
   `Interface::next` builds one only when there is none: moving on to the next server, it keeps
   the tunnel of the server before. `handle_stun_timeout` resets before it moves on, so after
   every timeout the request for the new server goes out through the tunnel built for the old
   one (`rotated_request_uses_previous_tunnel`).

   `handle_stun_rx` replaces the results by fresh ones as soon as `handle_response` is ready,
   before it looks at what came back (`handleStunRx_results`): a stray packet, an undecodable
   one or a response of another transaction fails and still drops the reflexive endpoint found
   before (`stray_packet_clears_results`). -/

import Mathlib
import Libtelio.Lib.Run
import Libtelio.TelioTraversal.Routes.Stunner

set_option autoImplicit false
set_option relaxedAutoImplicit false
set_option mvcgen.warning false

namespace Libtelio.TelioTraversal.Routes.Stunner

open Std.Do Libtelio.Net Libtelio.TelioCrypto Libtelio.TelioRelay Libtelio.TelioRelay.Derp

namespace Interface

end Interface

open Libtelio.Lib.Run

/-- Two relay servers, `A` of weight 1 and `B` of weight 2, with different keys. -/
def serverA : Server :=
  { ipv4 := Ipv4Addr.new 10 0 0 1, stunPort := 3479, stunPlaintextPort := 3478,
    publicKey := PublicKey.filled 1, weight := 1, used := false }

def serverB : Server :=
  { ipv4 := Ipv4Addr.new 10 0 0 2, stunPort := 3479, stunPlaintextPort := 3478,
    publicKey := PublicKey.filled 2, weight := 2, used := false }

/-- The configuration the stunner starts with. -/
def twoServers : Config :=
  { plainTextFallback := true,
    servers :=
      { secretKey := ⟨Vector.replicate TelioCrypto.keySize 9⟩, servers := [serverA, serverB],
        meshIp := .v4 (Ipv4Addr.new 100 64 0 2) } }

/-- A call where the tunnel hands out the request and every send succeeds. -/
def sendsAll : Io :=
  { tid := ⟨Vector.replicate 12 7⟩, localEndpoints := none,
    localIp := .v4 (Ipv4Addr.new 10 0 0 9), encapsulate := .writeToNetwork, socketSendOk := true }

/-- The first request goes to `A` through the tunnel to `A`'s key; after the timeout the
request to `B`'s STUN address goes out through the same tunnel, built for `A`'s key. -/
theorem rotated_request_uses_previous_tunnel :
    (run step (State.start (some twoServers) none)
        [.doStun sendsAll, .handleStunTimeout sendsAll]).sent =
      [.wg ⟨.v4 serverA.ipv4, serverA.stunPort⟩
          (Interface.createWgTun serverA twoServers.servers.secretKey),
        .wg ⟨.v4 serverB.ipv4, serverB.stunPort⟩
          (Interface.createWgTun serverA twoServers.servers.secretKey)] ∧
    (run step (State.start (some twoServers) none)
        [.doStun sendsAll, .handleStunTimeout sendsAll]).interface.currentServer =
      some { serverB with used := true } ∧
    serverA.publicKey ≠ serverB.publicKey := by
  decide

/-- A ready response replaces the results, good or bad; only one of the current transaction
then records its address. A pending one, or a datagram outside a session, leaves them. -/
theorem handleStunRx_results (s0 : State) (rx : Received) (io : Io) :
    ⦃fun s => ⌜s = s0⌝⦄ handleStunRx rx io
    ⦃post⟨fun _ s => ⌜((s0.interface.handleResponse rx io).2 = .pending ∧ s.results = s0.results) ∨
        ∃ tid addr, s0.session = some tid ∧
          (s0.interface.handleResponse rx io).2 = .ready (.ok (addr, tid)) ∧
          s.results = { Results.new io.localEndpoints with remote := some addr }⌝,
      fun _ s => ⌜(s0.session = none ∧ s.results = s0.results) ∨
        ((∃ r, (s0.interface.handleResponse rx io).2 = .ready r) ∧
          s.results = Results.new io.localEndpoints)⌝⟩⦄ := by
  mvcgen [handleStunRx]
  all_goals simp_all +zetaDelta [State.abortSession]

/-- The reflexive endpoint the first response reports. -/
def reflexive : SocketAddr := ⟨.v4 (Ipv4Addr.new 203 0 113 5), 40000⟩

/-- `A`'s response through the tunnel, for the transaction of `sendsAll`. -/
def responseFromA : Received :=
  { src := ⟨.v4 serverA.ipv4, serverA.stunPort⟩, decoded := .ok (reflexive, sendsAll.tid),
    decapsulated := .writeToTunnelV4, knownType := true, queued := 0, queueEnd := .done }

/-- The same datagram from an address that is not the server's. -/
def strayPacket : Received :=
  { responseFromA with src := ⟨.v4 (Ipv4Addr.new 10 0 0 7), 3479⟩ }

/-- After a first exchange has found the reflexive endpoint and a second request is out, a
packet from another address fails with `UnexpectedPacket` and leaves no reflexive endpoint. -/
theorem stray_packet_clears_results :
    (run step (State.start (some twoServers) none)
        [.doStun sendsAll, .handleStunRx responseFromA sendsAll, .doStun sendsAll]).results.remote =
      some reflexive ∧
    (Lib.EState.runOn (handleStunRx strayPacket sendsAll) (run step (State.start (some twoServers) none)
        [.doStun sendsAll, .handleStunRx responseFromA sendsAll, .doStun sendsAll])).2 =
      .error .unexpectedPacket ∧
    (Lib.EState.runOn (handleStunRx strayPacket sendsAll) (run step (State.start (some twoServers) none)
        [.doStun sendsAll, .handleStunRx responseFromA sendsAll, .doStun sendsAll])).1.results.remote =
      none := by
  decide

end Libtelio.TelioTraversal.Routes.Stunner
