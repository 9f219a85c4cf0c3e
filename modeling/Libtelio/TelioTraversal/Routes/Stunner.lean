/- The stunner (`routes/stunner.rs`): it finds the reflexive endpoint by STUN, over a
   WireGuard tunnel to the relay server or in plain text, rotating through the configured
   servers on timeouts.

   boringtun's `Tunn` is a record of the keys it was created with; its `encapsulate` and
   `decapsulate`, and the STUN codec, are parameters of a call, in `Io` and `Received`. What
   the socket sends is recorded in `State.sent`, oldest first: a plain STUN request, or a
   WireGuard message produced by a tunnel. The session's timer is the timeout event. -/

import Libtelio.Lib.EState
import Libtelio.TelioRelay.Derp.Config

set_option autoImplicit false
set_option relaxedAutoImplicit false

namespace Libtelio.TelioTraversal.Routes.Stunner

open Libtelio.Net Libtelio.TelioCrypto Libtelio.TelioRelay Libtelio.TelioRelay.Derp

/-- `stunner::Error`, with the variants this code returns. -/
inductive Error
  | iPv6NotSupported
  | interfaceEmpty
  | unexpectedPacket
  | stunFailed
  | serverNotFound
  | msgDecode
  | noResults
  | wgError
  | boringtun
  | socketError
  | wgMessageTypeError
  deriving DecidableEq, Repr

/-- `STUN_SRV_MESH_ADDR`, 100.64.0.4. -/
def stunSrvMeshAddr : IpAddr := .v4 (Ipv4Addr.new 100 64 0 4)

/-- `stun_codec::TransactionId`. -/
structure TransactionId where
  bytes : Vector UInt8 12
  deriving DecidableEq, Repr

/-- boringtun's `Tunn`, as the keys `Tunn::new` was given. -/
structure Tunn where
  staticPrivate : SecretKey
  peerStaticPublic : PublicKey
  deriving DecidableEq, Repr

/-- What `Tunn::encapsulate` and `Tunn::decapsulate` return. -/
inductive TunnResult
  | done
  | err
  | writeToNetwork
  | writeToTunnelV4
  deriving DecidableEq, Repr

/-- `Backend`. -/
inductive Backend
  | wg (tun : Option Tunn)
  | plaintext
  deriving DecidableEq, Repr

/-- `stunner::Config`. -/
structure Config where
  plainTextFallback : Bool
  servers : Derp.Config
  deriving DecidableEq, Repr

/-- `Results`; its field `local` is `localEndpoints` here. -/
structure Results where
  remote : Option SocketAddr
  localEndpoints : Option (List SocketAddr)
  deriving DecidableEq, Repr

/-- `Results::new`. -/
def Results.new (localEndpoints : Option (List SocketAddr)) : Results :=
  { remote := none, localEndpoints }

/-- `Results::is_empty`. -/
def Results.isEmpty (self : Results) : Bool := self.remote.isNone && self.localEndpoints.isNone

/-- `Results::to_vec`: the remote endpoint, then the local ones. -/
def Results.toVec (self : Results) : Except Error (List SocketAddr) :=
  if self.isEmpty then .error .noResults
  else .ok (self.remote.toList ++ self.localEndpoints.getD [])

/-- A datagram the stunner's socket sent. -/
inductive Datagram
  /-- A STUN request in the clear. -/
  | plain (dst : SocketAddr) (tid : TransactionId)
  /-- A WireGuard message produced by the tunnel `tun`. -/
  | wg (dst : SocketAddr) (tun : Tunn)
  deriving DecidableEq, Repr

/-- What one call reads from outside the stunner. -/
structure Io where
  /-- `TransactionId::new(rand::thread_rng().gen())`. -/
  tid : TransactionId
  /-- `local_endpoints.get(&socket)`. -/
  localEndpoints : Option (List SocketAddr)
  /-- The address of `socket.local_addr()`. -/
  localIp : IpAddr
  /-- What `tun.encapsulate` returns for the request. -/
  encapsulate : TunnResult
  /-- `socket.send_to(..)` succeeds. -/
  socketSendOk : Bool

/-- What a received datagram is, as the codecs decide. -/
structure Received where
  src : SocketAddr
  /-- `decode_reflexive_endpoint` of the datagram (plain text) or of the packet the tunnel
  writes out (`WriteToTunnelV4`). -/
  decoded : Except Error (SocketAddr × TransactionId)
  /-- What `tun.decapsulate` makes of the datagram. -/
  decapsulated : TunnResult
  /-- `WgMessageType::try_from(p[0])` of a packet the tunnel writes to the network. -/
  knownType : Bool
  /-- The packets the tunnel has queued after a handshake, and how its loop ends. -/
  queued : Nat
  queueEnd : TunnResult

/-- `Poll<Result<(SocketAddr, TransactionId)>>`. -/
inductive Poll
  | pending
  | ready (result : Except Error (SocketAddr × TransactionId))

/-- `Interface`. -/
structure Interface where
  config : Option Config
  currentServer : Option Server
  backend : Backend

/-- An `&mut Interface` method. -/
abbrev InterfaceM := EStateM Error Interface

namespace Interface

/-- `Interface::new`. -/
def new (config : Option Config) : Interface :=
  { config, currentServer := none, backend := .wg none }

/-- `Interface::addr`: the STUN port of the current server for the backend in use. -/
def addr (self : Interface) : Option SocketAddr :=
  self.currentServer.map fun server =>
    ⟨.v4 server.ipv4, match self.backend with
      | .plaintext => server.stunPlaintextPort
      | .wg _ => server.stunPort⟩

/-- `Interface::is_ready`. -/
def isReady (self : Interface) : Bool := self.addr.isSome

/-- `Interface::create_wg_tun`: a tunnel to the server's key from our secret key. -/
def createWgTun (server : Server) (privateKey : SecretKey) : Tunn :=
  { staticPrivate := privateKey, peerStaticPublic := server.publicKey }

/-- `Interface::reset`: in WireGuard mode, a new tunnel to the current server. -/
def reset : InterfaceM Unit := do
  let self ← get
  match self.backend with
  | .wg _ =>
    match self.currentServer with
    | none => throw .interfaceEmpty
    | some server =>
      match self.config with
      | none => throw .interfaceEmpty
      | some config =>
        set { self with backend := .wg (some (createWgTun server config.servers.secretKey)) }
  | .plaintext => pure ()

/-- `Interface::configure`: a new configuration has its server list reset. -/
def configure (self : Interface) (config : Option Config) : Interface :=
  match config with
  | some config => { self with config := some { config with servers := config.servers.reset } }
  | none => { self with config := none }

/-- `Interface::next`: the next unused server; when the list is exhausted it is reset, and
with `plain_text_fallback` the backend switches. A WireGuard tunnel is created only when there
is none. -/
def next : InterfaceM Unit := do
  let self ← get
  match self.config with
  | none => throw .interfaceEmpty
  | some config =>
    let (servers, found) := config.servers.getServer
    set { self with config := some { config with servers } }
    let (server, switchProto) ← match found with
      | some server => pure (server, false)
      | none => do
        let servers := servers.reset
        let (servers, found) := servers.getServer
        modify fun self => { self with config := some { config with servers } }
        match found with
        | none => throw .serverNotFound
        -- every server was tried: fall back to the other protocol
        | some server => pure (server, config.plainTextFallback)
    let self ← get
    let secretKey := config.servers.secretKey
    match self.backend with
    | .wg tun =>
      if switchProto then set { self with backend := .plaintext }
      else if tun.isNone then set { self with backend := .wg (some (createWgTun server secretKey)) }
    | .plaintext =>
      if switchProto then set { self with backend := .wg (some (createWgTun server secretKey)) }
    modify fun self => { self with currentServer := some server }

/-- `Interface::send_request`: a request to the current server, through the tunnel in
WireGuard mode; it returns the transaction id and what the socket sent. -/
def sendRequest (self : Interface) (io : Io) : Except Error (TransactionId × List Datagram) :=
  match self.addr with
  | none => .error .interfaceEmpty
  | some dst => do
    let stunSrc ← match self.backend with
      | .wg _ =>
        match self.config with
        | none => .error .interfaceEmpty
        | some config => pure config.servers.meshIp
      | .plaintext => pure io.localIp
    let stunDst := match self.backend with
      | .wg _ => stunSrvMeshAddr
      | .plaintext => dst.ip
    -- `prepare_stun_request` builds an IPv4 packet
    match stunSrc, stunDst with
    | .v4 _, .v4 _ => pure ()
    | _, _ => .error .iPv6NotSupported
    let tid := io.tid
    match self.backend with
    | .wg (some tun) =>
      match io.encapsulate with
      | .writeToNetwork =>
        if io.socketSendOk then pure (tid, [.wg dst tun]) else .error .socketError
      | .err => .error .wgError
      | .done => pure (tid, [])
      | .writeToTunnelV4 => .error .boringtun
    | .wg none => .error .boringtun
    | .plaintext =>
      if io.socketSendOk then pure (tid, [.plain dst tid]) else .error .socketError

/-- `Interface::handle_response`: what the socket sent while the datagram was handled, and
the outcome. -/
def handleResponse (self : Interface) (rx : Received) (io : Io) : List Datagram × Poll :=
  match self.addr with
  | none => ([], .ready (.error .interfaceEmpty))
  | some expectedAddr =>
    if rx.src ≠ expectedAddr then ([], .ready (.error .unexpectedPacket))
    else
      match self.backend with
      | .wg (some tun) =>
        match rx.decapsulated with
        | .writeToNetwork =>
          if !rx.knownType then ([], .ready (.error .wgMessageTypeError))
          else if !io.socketSendOk then ([], .ready (.error .socketError))
          else
            -- the reply, then each queued packet, all to the server
            let sent := List.replicate (rx.queued + 1) (Datagram.wg expectedAddr tun)
            match rx.queueEnd with
            | .done => (sent, .pending)
            | .err => (sent, .ready (.error .wgError))
            | _ => (sent, .ready (.error .stunFailed))
        | .writeToTunnelV4 => ([], .ready rx.decoded)
        | .err => ([], .ready (.error .wgError))
        | .done => ([], .ready (.error .interfaceEmpty))
      | .wg none => ([], .ready (.error .interfaceEmpty))
      | .plaintext => ([], .ready rx.decoded)

end Interface

/-- The stunner task's `State`. -/
structure State where
  interface : Interface
  results : Results
  session : Option TransactionId
  sent : List Datagram

/-- A handler of the stunner task. -/
abbrev StunnerM := EStateM Error State

namespace State

/-- `Stunner::start`: the configuration's server list is reset first. -/
def start (config : Option Config) (localEndpoints : Option (List SocketAddr)) : State :=
  let config := config.map fun c => { c with servers := c.servers.reset }
  { interface := Interface.new config, results := Results.new localEndpoints, session := none,
    sent := [] }

/-- `is_stunning`. -/
def isStunning (self : State) : Bool := self.session.isSome

/-- `abort_session`: the result of `interface.reset()` is dropped, what it wrote stays. -/
def abortSession (self : State) : State :=
  { self with session := none, interface := (Lib.EState.runOn Interface.reset self.interface).1 }

/-- `clear_results`. -/
def clearResults (self : State) (io : Io) : State :=
  { self with results := Results.new io.localEndpoints }

/-- `fetch_endpoints`. -/
def fetchEndpoints (self : State) : Except Error Results :=
  if self.results.isEmpty then .error .noResults else .ok self.results

end State

/-- An interface method under `?`. -/
def liftInterface {α : Type} (x : InterfaceM α) : StunnerM α := do
  let self ← get
  let (interface, result) := Lib.EState.runOn x self.interface
  set { self with interface }
  match result with
  | .ok a => pure a
  | .error e => throw e

/-- `do_stun`: unless a session runs, send a request and start one. -/
def doStun (io : Io) : StunnerM Unit := do
  if (← get).isStunning then return
  -- the first request picks the first server
  if !(← get).interface.isReady then liftInterface Interface.next
  match (← get).interface.sendRequest io with
  | .error e => throw e
  | .ok (tid, out) =>
    modify fun self => { self with sent := self.sent ++ out }
    modify fun self => { self with session := some tid }

/-- `handle_stun_rx`. -/
def handleStunRx (rx : Received) (io : Io) : StunnerM Unit := do
  match (← get).session with
  | none => throw .unexpectedPacket
  | some currTid =>
    let (out, result) := (← get).interface.handleResponse rx io
    modify fun self => { self with sent := self.sent ++ out }
    match result with
    | .pending => pure ()
    | .ready r =>
      modify fun self => { self with results := Results.new io.localEndpoints }
      match r with
      | .ok (addr, tid) =>
        if currTid ≠ tid then throw .unexpectedPacket
        modify fun self => { self with results := { self.results with remote := some addr } }
      | .error e => throw e
      modify State.abortSession

/-- `handle_stun_timeout`: abort, rotate to the next server, try again. -/
def handleStunTimeout (io : Io) : StunnerM Unit := do
  modify State.abortSession
  modify fun self => self.clearResults io
  liftInterface Interface.next
  doStun io

/-- `Stunner::configure`; the result of its `do_stun` is dropped. -/
def configure (config : Option Config) (io : Io) : StunnerM Unit := do
  modify fun self => { self with interface := self.interface.configure config }
  modify State.abortSession
  modify fun self => self.clearResults io
  tryCatch (doStun io) fun _ => pure ()

/-- What reaches the stunner, and the interface's own calls. -/
inductive Op
  | configure (config : Option Config) (io : Io)
  | doStun (io : Io)
  | handleStunTimeout (io : Io)
  | handleStunRx (rx : Received) (io : Io)
  | next
  | reset

/-- One call; an error is returned to the caller or logged, what was written stays. -/
def step (self : State) : Op → State
  | .configure config io => (Lib.EState.runOn (configure config io) self).1
  | .doStun io => (Lib.EState.runOn (doStun io) self).1
  | .handleStunTimeout io => (Lib.EState.runOn (handleStunTimeout io) self).1
  | .handleStunRx rx io => (Lib.EState.runOn (handleStunRx rx io) self).1
  | .next => (Lib.EState.runOn (liftInterface Interface.next) self).1
  | .reset => (Lib.EState.runOn (liftInterface Interface.reset) self).1

end Libtelio.TelioTraversal.Routes.Stunner
