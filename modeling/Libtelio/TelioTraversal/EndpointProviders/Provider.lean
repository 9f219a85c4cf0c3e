/- The endpoint providers (`endpoint_providers/mod.rs` and `local.rs`): what they publish, and
   how the local interfaces provider pings and answers the pinger packets its socket receives.

   A provider is a task over its state, and each call reads what the outside answers during it
   (`Io`): the clock, the WireGuard interface, and whether a socket send succeeds. A channel it
   publishes on is what it has carried, oldest first, and whether its receiver is still there.
   Packets are read and written by the telio-proto codec over the protobuf runtime `pb`.

   `send_ping` stamps a ping with the clock in microseconds, and both providers time the pong
   by `Duration::from_millis` of the `u64` difference of two such stamps (`pongRtt`). The
   subtraction wraps as in a release build; a debug build panics where it wraps. How the local
   provider polls its interfaces is not modelled. -/

import Libtelio.Lib.EState
import Libtelio.TelioProto.Codec
import Libtelio.TelioTraversal.Routes.Database
import Libtelio.TelioWg.Uapi

set_option autoImplicit false
set_option relaxedAutoImplicit false
set_option mvcgen.warning false

namespace Libtelio.TelioTraversal.EndpointProviders

open Std.Do Libtelio.Net Libtelio.TelioProto Libtelio.Lib.EState

abbrev Duration := Routes.Duration

/-- `endpoint_providers::Error`, the variants of the modelled paths. -/
inductive Error
  | iOError
  | endpointCandidatePublishError
  | pongRxedPublishError
  | noWGListenPort
  | packetParserError (e : CodecError)
  | failedToBuildPongPacket
  | byteCodecError
  | notConfigured
  | noStunPeer
  | badStunPeer
  deriving DecidableEq, Repr

structure EndpointCandidate where
  wg : SocketAddr
  udp : SocketAddr
  deriving DecidableEq, Repr

structure PongEvent where
  addr : SocketAddr
  rtt : Duration
  msg : PingerMsg
  deriving DecidableEq, Repr

/-- A `chan::Tx`: what was sent on it, oldest first, and whether its receiver is still alive. -/
structure Chan (α : Type) where
  sent : List α
  receiverAlive : Bool
  deriving DecidableEq, Repr

/-- `send`, failing with `error` once the receiver is gone. -/
def Chan.send {α : Type} (self : Chan α) (a : α) (error : Error) : Except Error (Chan α) :=
  if self.receiverAlive then .ok { self with sent := self.sent ++ [a] } else .error error

@[simp] theorem Chan.send_eq_error {α : Type} {self : Chan α} {a : α} {error e : Error} :
    self.send a error = .error e ↔ self.receiverAlive = false ∧ e = error := by
  unfold Chan.send
  cases self.receiverAlive
  · simp only [Bool.false_eq_true, ↓reduceIte, Except.error.injEq, true_and]
    exact eq_comm
  · simp

@[simp] theorem Chan.send_eq_ok {α : Type} {self : Chan α} {a : α} {error : Error} {c : Chan α} :
    self.send a error = .ok c ↔
      self.receiverAlive = true ∧ c = { self with sent := self.sent ++ [a] } := by
  unfold Chan.send
  cases self.receiverAlive
  · simp
  · simp only [↓reduceIte, Except.ok.injEq, true_and]
    exact eq_comm

/-- What one call of a provider reads from outside. -/
structure Io where
  /-- `SystemTime::now().duration_since(UNIX_EPOCH).unwrap_or_default().as_micros() as u64`. -/
  timestamp : Timestamp
  /-- `wg.get_interface().await`. -/
  interface : Option TelioWg.Interface
  /-- `socket.send_to(..)` succeeds. -/
  socketSendOk : Bool

def tryOk {σ ε α : Type} (into : ε → Error) : Except ε α → EStateM Error σ α
  | .ok a => pure a
  | .error e => throw (into e)

/-- The round trip time both providers give a pong:
`Duration::from_millis(ts - packet.get_start_timestamp())`. -/
def pongRtt (ts start : Timestamp) : Duration := (ts - start).toNat * 1000000

/-! The pinger path both providers share, over a provider's state `σ`: where it keeps its pong
channel, and how its socket sends. -/

section Pinger

variable {σ : Type} (pb : Protobuf) (sendTo : List UInt8 → SocketAddr → Io → EStateM Error σ Unit)

def getWgPort (io : Io) : EStateM Error σ UInt16 :=
  match io.interface.bind (·.listenPort) with
  | some wgPort => pure wgPort
  | none => throw .noWGListenPort

/-- `send_ping`: a ping stamped with the clock in microseconds. -/
def sendPingVia (addr : SocketAddr) (wgPort : WGPort) (sessionId : Session) (io : Io) :
    EStateM Error σ Unit := do
  let ping := PingerMsg.ping wgPort sessionId io.timestamp
  let buf ← tryOk .packetParserError (ping.encode pb)
  sendTo buf addr io

theorem sendPingVia_invariant {I : σ → Prop}
    (sendKeeps : ∀ buf addr io, ⦃fun s => ⌜I s⌝⦄ sendTo buf addr io
      ⦃post⟨fun _ s => ⌜I s⌝, fun _ s => ⌜I s⌝⟩⦄)
    (addr : SocketAddr) (wgPort : WGPort) (sessionId : Session) (io : Io) :
    ⦃fun s => ⌜I s⌝⦄ sendPingVia pb sendTo addr wgPort sessionId io
    ⦃post⟨fun _ s => ⌜I s⌝, fun _ s => ⌜I s⌝⟩⦄ := by
  mvcgen [sendPingVia, tryOk, sendKeeps]

variable (pongChan : σ → Option (Chan PongEvent)) (setPongChan : σ → Chan PongEvent → σ)

/-- The pinger half of the receive path: a ping is answered with a pong from the same socket, a
pong is published with its round trip time if someone subscribed, and any other packet is
dropped. -/
def handlePinger (payload : List UInt8) (addr : SocketAddr) (io : Io) : EStateM Error σ Unit := do
  match ← tryOk .packetParserError (Packet.decode pb payload) with
  | .pinger packet =>
    match packet.msg.messageType with
    | .ping =>
      let wgPort ← getWgPort io
      let pong ← match packet.pong ⟨wgPort⟩ with
        | some pong => pure pong
        | none => throw .failedToBuildPongPacket
      let buf ← tryOk .packetParserError (pong.encode pb)
      sendTo buf addr io
    | .pong =>
      match pongChan (← get) with
      | some tx =>
        let tx ← tryOk id (tx.send
          ⟨addr, pongRtt io.timestamp packet.msg.startTimestamp, packet⟩ .pongRxedPublishError)
        modify fun self => setPongChan self tx
      | none => pure ()
  | _ => pure ()

/-- The pinger path changes a provider's state only by a send of its socket and by publishing a
pong, so it keeps what both keep. -/
theorem handlePinger_invariant {I : σ → Prop}
    (sendKeeps : ∀ buf addr io, ⦃fun s => ⌜I s⌝⦄ sendTo buf addr io
      ⦃post⟨fun _ s => ⌜I s⌝, fun _ s => ⌜I s⌝⟩⦄)
    (setKeeps : ∀ s tx, I s → I (setPongChan s tx)) (payload : List UInt8) (addr : SocketAddr)
    (io : Io) :
    ⦃fun s => ⌜I s⌝⦄ handlePinger pb sendTo pongChan setPongChan payload addr io
    ⦃post⟨fun _ s => ⌜I s⌝, fun _ s => ⌜I s⌝⟩⦄ := by
  mvcgen [handlePinger, tryOk, getWgPort, sendKeeps]
  all_goals simp_all +zetaDelta

end Pinger

namespace Local

/-- The local interfaces provider's `State`, with what its receive path and `send_ping` use: the
pong publisher, and the datagrams its UDP socket sent. -/
structure State where
  pongPublisher : Option (Chan PongEvent)
  sent : List (SocketAddr × List UInt8)
  deriving DecidableEq, Repr

abbrev LocalM := EStateM Error State

def sendTo (buf : List UInt8) (addr : SocketAddr) (io : Io) : LocalM Unit :=
  if io.socketSendOk then modify fun self => { self with sent := self.sent ++ [(addr, buf)] }
  else throw .iOError

variable (pb : Protobuf)

def sendPing (addr : SocketAddr) (wgPort : WGPort) (sessionId : Session) (io : Io) :
    LocalM Unit :=
  sendPingVia pb sendTo addr wgPort sessionId io

def handleRxPacket (buf : List UInt8) (addr : SocketAddr) (io : Io) : LocalM Unit :=
  handlePinger pb sendTo (·.pongPublisher) (fun self tx => { self with pongPublisher := some tx })
    buf addr io

end Local

end Libtelio.TelioTraversal.EndpointProviders
