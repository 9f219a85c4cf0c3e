/- The WireGuard interface as `telio-wg` sees it (`uapi.rs`), and the cross-platform UAPI set
   command of the `wireguard_uapi` crate that it sends to an adapter.

   An `Interface` holds its peers in a `BTreeMap`; here an `AList`, compared by what it maps
   each key to, as the derived `PartialEq` of a `BTreeMap` compares. A `Peer` is connected
   while its last handshake is younger than `REJECT_AFTER_TIME` plus the rekey jitter. -/

import Mathlib.Data.List.AList
import Libtelio.Net.Addr
import Libtelio.TelioCrypto.Key

set_option autoImplicit false
set_option relaxedAutoImplicit false

namespace Libtelio.TelioWg

open Libtelio.Net Libtelio.TelioCrypto

/-- `std::time::Duration`, in nanoseconds. -/
abbrev Duration := Nat

/-- `Peer`: what the interface knows of one peer. -/
structure Peer where
  publicKey : PublicKey
  endpoint : Option SocketAddr
  persistentKeepaliveInterval : Option UInt32
  allowedIps : List IpNetwork
  rxBytes : Option UInt64
  txBytes : Option UInt64
  timeSinceLastHandshake : Option Duration
  deriving DecidableEq

/-- `Peer::connected`. -/
def Peer.connected (self : Peer) : Bool :=
  -- `REJECT_AFTER_TIME` of 180 s and `REKEY_TIMEOUT_JITTER` of 334 ms
  self.timeSinceLastHandshake.any fun d => d < 180 * 10 ^ 9 + 334 * 10 ^ 6

/-- The peers of an interface, by public key. -/
abbrev Peers := AList (fun _ : PublicKey => Peer)

/-- `Interface`. -/
structure Interface where
  privateKey : Option SecretKey
  listenPort : Option UInt16
  fwmark : UInt32
  peers : Peers

/-- `Interface::default()`. -/
def Interface.empty : Interface := ⟨none, none, 0, ∅⟩

/-- Two peer maps agree on every key. -/
def Peers.beq (a b : Peers) : Bool :=
  a.keys.all (fun k => a.lookup k == b.lookup k) && b.keys.all (fun k => a.lookup k == b.lookup k)

/-- The derived `PartialEq` of `Interface`. -/
def Interface.beq (a b : Interface) : Bool :=
  a.privateKey == b.privateKey && a.listenPort == b.listenPort && a.fwmark == b.fwmark &&
    a.peers.beq b.peers

/-- `PeerState`. -/
inductive PeerState
  | disconnected
  | connecting
  | connected
  deriving DecidableEq, Repr

/-- `Event`: a peer's new state, sent with the peer. -/
structure Event where
  state : PeerState
  peer : Peer
  deriving DecidableEq

/-- `Response` of an adapter: its errno and, for `Get`, the interface it reports. -/
structure Response where
  errno : Int32
  interface : Option Interface

/-! The cross-platform set command, `wireguard_uapi::xplatform::set`, with the fields
`telio-wg` writes. -/

/-- `set::AllowedIp`. -/
structure SetAllowedIp where
  ipaddr : IpAddr
  cidrMask : UInt8
  deriving DecidableEq

/-- `set::Peer`. -/
structure SetPeer where
  publicKey : PublicKey
  endpoint : Option SocketAddr
  persistentKeepaliveInterval : Option UInt16
  allowedIps : List SetAllowedIp
  remove : Option Bool
  updateOnly : Option Bool
  replaceAllowedIps : Option Bool
  deriving DecidableEq

/-- `set::Device`. -/
structure SetDevice where
  privateKey : Option SecretKey
  listenPort : Option UInt16
  fwmark : Option UInt32
  replacePeers : Option Bool
  peers : List SetPeer
  deriving DecidableEq

namespace SetPeer

/-- `set::Peer::from_public_key`: every other field absent. -/
def fromPublicKey (publicKey : PublicKey) : SetPeer :=
  ⟨publicKey, none, none, [], none, none, none⟩

/-- The builder setters `remove`, `update_only` and `replace_allowed_ips`. -/
def setRemove (self : SetPeer) (remove : Bool) : SetPeer := { self with remove := some remove }

def setUpdateOnly (self : SetPeer) (updateOnly : Bool) : SetPeer :=
  { self with updateOnly := some updateOnly }

def setReplaceAllowedIps (self : SetPeer) (replaceAllowedIps : Bool) : SetPeer :=
  { self with replaceAllowedIps := some replaceAllowedIps }

/-- `From<&Peer> for set::Peer`: the keepalive cast `as u16`, each allowed IP as its network
and prefix, the flags absent. -/
def ofPeer (item : Peer) : SetPeer :=
  { publicKey := item.publicKey, endpoint := item.endpoint,
    persistentKeepaliveInterval := item.persistentKeepaliveInterval.map UInt32.toUInt16,
    allowedIps := item.allowedIps.map fun ip => ⟨ip.network, ip.prefixLen⟩,
    remove := none, updateOnly := none, replaceAllowedIps := none }

end SetPeer

/-- `Cmd`. -/
inductive Cmd
  | get
  | set (device : SetDevice)

end Libtelio.TelioWg
