/- The STUN endpoint provider (`endpoint_providers/stun.rs`): a session of two STUN binding
   requests, one through the WireGuard tunnel to the STUN server behind the stun peer and one in
   plain text to the peer's public address, whose two answers make the candidate it publishes.

   A datagram from the external socket goes to the session first and, if the session skips it,
   to the pinger; one from the tunnel socket only to the session. `try_handle_stun_rx` takes the
   session out of the state and puts it back after a consumed or a skipped datagram; the `?` on
   an error of `try_consume` returns with the session taken. The STUN codec (`stun_msg`) is a
   parameter, as the protobuf runtime is, and the transaction ids a new session draws come with
   the call. The session's timer is the `timeout` event, the poll interval the `tick` event. -/

import Libtelio.TelioTraversal.EndpointProviders.Provider
import Libtelio.TelioTraversal.Routes.Stunner

set_option autoImplicit false
set_option relaxedAutoImplicit false

namespace Libtelio.TelioTraversal.EndpointProviders.Stun

open Libtelio.Net Libtelio.TelioCrypto Libtelio.TelioProto Libtelio.Lib.EState
open Libtelio.TelioTraversal.Routes.Stunner (TransactionId)

/-- `stun_msg`: the binding request of a transaction, and what `decode_response` reads off a
response, its mapped address and transaction; `none` is a `bytecodec::Error`. -/
structure StunCodec where
  newRequest : TransactionId → List UInt8
  decodeResponse : List UInt8 → Option (SocketAddr × TransactionId)

structure Config where
  stunPeer : PublicKey
  plaintextStunPort : UInt16
  wgStunPort : Option UInt16
  deriving DecidableEq, Repr

/-- `DEFAULT_STUN_PORT`. -/
def defaultStunPort : UInt16 := 3478

inductive StunRequest
  | waiting (addr : SocketAddr) (tid : TransactionId)
  | result (addr : SocketAddr)
  deriving DecidableEq, Repr

structure StunSession where
  wg : StunRequest
  udp : StunRequest
  deriving DecidableEq, Repr

inductive StunResult
  | final (candidate : EndpointCandidate)
  | consumed
  | skipped
  deriving DecidableEq, Repr

inductive Socket
  | tun
  | ext
  deriving DecidableEq, Repr

structure Datagram where
  via : Socket
  dst : SocketAddr
  bytes : List UInt8
  deriving DecidableEq, Repr

/-- `State`, without the WireGuard handle, the sockets and the timers: what the sockets sent is
kept in `sent`, oldest first. -/
structure State where
  config : Option Config
  changeEvent : Option (Chan (List EndpointCandidate))
  pongEvent : Option (Chan PongEvent)
  stunSession : Option StunSession
  lastCandidates : List EndpointCandidate
  sent : List Datagram
  deriving DecidableEq, Repr

/-- A call's `Io`, with the transaction ids `new_request` draws if the call starts a session. -/
structure StunIo extends Io where
  wgTid : TransactionId
  udpTid : TransactionId

abbrev StunM := EStateM Error State

variable (codec : StunCodec)

namespace StunRequest

/-- `try_update`: whether the payload is this request's response. A payload from the request's
server that does not decode is an error. -/
def tryUpdate (payload : List UInt8) (srcAddr : SocketAddr) : EStateM Error StunRequest Bool := do
  match ← get with
  | .waiting addr tid =>
    if addr ≠ srcAddr then return false
    let (sa, id) ← match codec.decodeResponse payload with
      | some decoded => pure decoded
      | none => throw .byteCodecError
    if id ≠ tid then return false
    set (StunRequest.result sa)
    return true
  | .result _ => return false

end StunRequest

namespace StunSession

/-- `try_consume`: the payload goes to the tunnel's request, and to the plain one only if the
first did not take it. -/
def tryConsume (payload : List UInt8) (srcAddr : SocketAddr) :
    EStateM Error StunSession StunResult := do
  let consumed ←
    if ← zoom (·.wg) (fun self wg => { self with wg }) (StunRequest.tryUpdate codec payload srcAddr)
    then pure true
    else
      zoom (·.udp) (fun self udp => { self with udp }) (StunRequest.tryUpdate codec payload srcAddr)
  if !consumed then return .skipped
  let self ← get
  match self.wg, self.udp with
  | .result wg, .result udp => return .final ⟨wg, udp⟩
  | _, _ => return .consumed

end StunSession

def sendTo (via : Socket) (buf : List UInt8) (addr : SocketAddr) (io : Io) : StunM Unit :=
  if io.socketSendOk then modify fun self => { self with sent := self.sent ++ [⟨via, addr, buf⟩] }
  else throw .iOError

/-- `StunSession::start`: one request through the tunnel, one in plain text. -/
def StunSession.start (wg udp : SocketAddr) (io : StunIo) : StunM StunSession := do
  sendTo .tun (codec.newRequest io.wgTid) wg io.toIo
  sendTo .ext (codec.newRequest io.udpTid) udp io.toIo
  return ⟨.waiting wg io.wgTid, .waiting udp io.udpTid⟩

/-- `get_stun_endpoints`: the STUN server behind the stun peer's first network, and the peer's
own address. -/
def getStunEndpoints (io : Io) : StunM (SocketAddr × SocketAddr) := do
  match (← get).config with
  | some config =>
    let stunPeer ← match io.interface.bind (·.peers.lookup config.stunPeer) with
      | some stunPeer => pure stunPeer
      | none => throw .noStunPeer
    let wgIp ← match stunPeer.allowedIps.head? with
      | some ip => pure ip.ip
      | none => throw .badStunPeer
    let udpIp ← match stunPeer.endpoint with
      | some endpoint => pure endpoint.ip
      | none => throw .badStunPeer
    return (⟨wgIp, config.wgStunPort.getD defaultStunPort⟩, ⟨udpIp, config.plaintextStunPort⟩)
  | none => throw .notConfigured

def startStunSession (io : StunIo) : StunM Unit := do
  if (← get).stunSession.isSome then return
  let (wg, udp) ← getStunEndpoints io.toIo
  let session ← StunSession.start codec wg udp io
  modify fun self => { self with stunSession := some session }

/-- `try_handle_stun_rx`: whether the session took the datagram. -/
def tryHandleStunRx (payload : List UInt8) (srcAddr : SocketAddr) : StunM Bool := do
  match (← get).stunSession with
  | some session =>
    modify fun self => { self with stunSession := none }
    let (session, consumed) := runOn (StunSession.tryConsume codec payload srcAddr) session
    match consumed with
    | .error e => throw e
    | .ok (.final candidate) =>
      -- the session is resolved and not put back
      match (← get).changeEvent with
      | some changeEvent =>
        let candidates := [candidate]
        if (← get).lastCandidates ≠ candidates then
          modify fun self => { self with lastCandidates := candidates }
          let changeEvent ←
            tryOk id (changeEvent.send candidates .endpointCandidatePublishError)
          modify fun self => { self with changeEvent := some changeEvent }
      | none => pure ()
      return true
    | .ok .consumed =>
      modify fun self => { self with stunSession := some session }
      return true
    | .ok .skipped =>
      modify fun self => { self with stunSession := some session }
      return false
  | none => return false

variable (pb : Protobuf)

def handlePingRx (payload : List UInt8) (srcAddr : SocketAddr) (io : Io) : StunM Unit :=
  handlePinger pb (sendTo .ext) (·.pongEvent) (fun self tx => { self with pongEvent := some tx })
    payload srcAddr io

def handleRx (payload : List UInt8) (srcAddr : SocketAddr) (io : Io) : StunM Unit := do
  if ← tryHandleStunRx codec payload srcAddr then return
  handlePingRx pb payload srcAddr io

def sendPing (addr : SocketAddr) (wgPort : WGPort) (sessionId : Session) (io : Io) : StunM Unit :=
  sendPingVia pb (sendTo .ext) addr wgPort sessionId io

/-- The session's timer: the session is dropped, and candidates published before are withdrawn
with an empty list, whether or not the send succeeds. -/
def timeout : StunM Unit := do
  modify fun self => { self with stunSession := none }
  if !(← get).lastCandidates.isEmpty then
    modify fun self => { self with lastCandidates := [] }
    match (← get).changeEvent with
    | some changeEvent =>
      match changeEvent.send [] .endpointCandidatePublishError with
      | .ok changeEvent => modify fun self => { self with changeEvent := some changeEvent }
      | .error _ => pure ()
    | none => pure ()

/-- `configure`: a new configuration drops the session and starts another, whose error is
dropped. -/
def configure (config : Option Config) (io : StunIo) : StunM Unit := do
  modify fun self => { self with config, stunSession := none }
  tryCatch (startStunSession codec io) fun _ => pure ()

/-- What the provider's task does: the branches of `wait_with_update`, and the calls of
`EndpointProvider` and `configure` it executes. -/
inductive Event
  | extRx (payload : List UInt8) (srcAddr : SocketAddr) (io : Io)
  | tunRx (payload : List UInt8) (srcAddr : SocketAddr)
  | timeout
  | tick (io : StunIo)
  | configure (config : Option Config) (io : StunIo)
  | sendPing (addr : SocketAddr) (wgPort : WGPort) (sessionId : Session) (io : Io)
  | subscribePong (tx : Chan PongEvent)
  | subscribeChange (tx : Chan (List EndpointCandidate))

/-- One event, its error dropped or returned to the caller; the timer fires only while a
session runs. -/
def step (self : State) : Event → State
  | .extRx payload srcAddr io => (runOn (handleRx codec pb payload srcAddr io) self).1
  | .tunRx payload srcAddr => (runOn (tryHandleStunRx codec payload srcAddr) self).1
  | .timeout => if self.stunSession.isSome then (runOn timeout self).1 else self
  | .tick io => (runOn (startStunSession codec io) self).1
  | .configure config io => (runOn (configure codec config io) self).1
  | .sendPing addr wgPort sessionId io => (runOn (sendPing pb addr wgPort sessionId io) self).1
  | .subscribePong tx => { self with pongEvent := some tx }
  | .subscribeChange tx => { self with changeEvent := some tx }

end Libtelio.TelioTraversal.EndpointProviders.Stun
