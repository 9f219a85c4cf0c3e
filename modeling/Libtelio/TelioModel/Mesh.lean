/- The meshnet data of `telio-model`: the nodes of the mesh map (`mesh.rs`) and the
   configuration they are built from (`config.rs`).

   A node is what the device knows of a peer of the mesh, of an exit node, or of its own DNS
   resolver. The conversions are the `From` implementations by which the device builds a
   node from each of these and by which it hands a node to the WireGuard driver. A node's path
   type is left out: it changes only on the path change events of the driver, which this model
   does not receive. -/

import Libtelio.Lib.KeyedMap
import Libtelio.TelioWg.Uapi

set_option autoImplicit false
set_option relaxedAutoImplicit false

namespace Libtelio.TelioModel

open Libtelio.Net Libtelio.TelioCrypto Libtelio.Lib.EventLog Libtelio.Lib.KeyedMap

/-- `NodeState`, the type alias of the driver's peer state. -/
abbrev NodeState := TelioWg.PeerState

/-- `Endpoint`: an address of a node, and whether it is the one the node is reached at. -/
structure Endpoint where
  sockaddr : SocketAddr
  primary : Bool
  deriving DecidableEq

structure Node where
  publicKey : PublicKey
  state : Option NodeState
  isExit : Bool
  isVpn : Bool
  allowedIps : List IpNetwork
  endpoints : List Endpoint
  hostname : Option String
  allowIncomingConnections : Bool
  deriving DecidableEq

/-- `ExitNode`: the node a client routes its traffic through, given by key, the networks routed
to it and, for a VPN server, its address. -/
structure ExitNode where
  publicKey : PublicKey
  allowedIps : Option (List IpNetwork)
  endpoint : Option SocketAddr
  deriving DecidableEq

/-- `PeerBase`, without the identifier nothing here reads. -/
structure PeerBase where
  publicKey : PublicKey
  hostname : String
  ipAddresses : Option (List IpAddr)
  deriving DecidableEq

/-- `config::Peer`, without `is_local`. -/
structure Peer where
  base : PeerBase
  allowIncomingConnections : Bool
  deriving DecidableEq

/-- `Config`: the peers of the meshnet. What it says of this device, of the relay servers and of
DNS reaches the device through the relay's answer, which the runtime takes as an input. -/
structure Config where
  peers : Option (List Peer)
  deriving DecidableEq

/-- The node map, `HashMap<PublicKey, Node>`. -/
abbrev Nodes := AList (fun _ : PublicKey => Node)

/-- `"0.0.0.0/0".parse()`: the default route. -/
def defaultRoute : IpNetwork := .v4 ⟨⟨0⟩, 0, by decide⟩

/-- `From<&ExitNode> for Node`: an exit, a VPN server when it has an address, routing all
traffic unless the exit node names its networks. -/
def Node.ofExitNode (other : ExitNode) : Node :=
  { publicKey := other.publicKey
    state := none
    isExit := true
    isVpn := other.endpoint.isSome
    allowedIps := other.allowedIps.getD [defaultRoute]
    endpoints := (other.endpoint.map fun e => [⟨e, true⟩]).getD []
    hostname := none
    allowIncomingConnections := false }

/-- `From<&Peer> for Node`: a meshnet peer, routing its own addresses. -/
def Node.ofPeer (peer : Peer) : Node :=
  { publicKey := peer.base.publicKey
    state := none
    isExit := false
    isVpn := false
    allowedIps := (peer.base.ipAddresses.map fun ips => ips.map IpNetwork.ofIpAddr).getD []
    endpoints := []
    hostname := some peer.base.hostname
    allowIncomingConnections := peer.allowIncomingConnections }

/-- `From<&UapiPeer> for Node`: the node of a WireGuard peer, such as the DNS resolver's. -/
def Node.ofUapiPeer (other : TelioWg.Peer) : Node :=
  { publicKey := other.publicKey
    state := none
    isExit := false
    isVpn := false
    allowedIps := other.allowedIps
    endpoints := (other.endpoint.map fun e => [⟨e, true⟩]).getD []
    hostname := none
    allowIncomingConnections := false }

/-- `From<&Node> for UapiPeer`: the peer the driver is given, at the node's primary endpoint. -/
def Node.toUapiPeer (other : Node) : TelioWg.Peer :=
  { publicKey := other.publicKey
    endpoint := (other.endpoints.find? (·.primary)).map (·.sockaddr)
    persistentKeepaliveInterval := some 25
    allowedIps := other.allowedIps
    rxBytes := none
    txBytes := none
    timeSinceLastHandshake := none }

/-- `Map::from(&Config)`, its nodes: one for each peer of the configuration, collected into the
map so that a later peer of a key takes the place of an earlier one. -/
def Map.ofConfig (c : Config) : Nodes :=
  (c.peers.getD []).foldl (fun nodes p => nodes.insert p.base.publicKey (Node.ofPeer p)) ∅

/-- `Map::set_relay_endpoints`: each node the relay has an endpoint for is reached there. -/
def Map.setRelayEndpoints (nodes : Nodes) (endpoints : List (PublicKey × SocketAddr)) : Nodes :=
  endpoints.foldl (fun nodes entry =>
    match nodes.lookup entry.1 with
    | some node => nodes.insert entry.1 { node with endpoints := [⟨entry.2, true⟩] }
    | none => nodes) nodes

@[simp] theorem Node.ofExitNode_publicKey (other : ExitNode) :
    (Node.ofExitNode other).publicKey = other.publicKey := rfl

@[simp] theorem Node.ofPeer_publicKey (peer : Peer) :
    (Node.ofPeer peer).publicKey = peer.base.publicKey := rfl

@[simp] theorem Node.ofUapiPeer_publicKey (other : TelioWg.Peer) :
    (Node.ofUapiPeer other).publicKey = other.publicKey := rfl

@[simp] theorem Node.ofPeer_isExit (peer : Peer) : (Node.ofPeer peer).isExit = false := rfl

@[simp] theorem Node.ofUapiPeer_isExit (other : TelioWg.Peer) :
    (Node.ofUapiPeer other).isExit = false := rfl

end Libtelio.TelioModel
