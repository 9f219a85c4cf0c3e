/- The WireGuard device as a UAPI set command changes it: the meaning of the command
   `update_construct_set_device` builds, against which it is checked.

   This is the semantics of the cross-platform UAPI `set` operation, not code of this
   repository. A field a command leaves absent keeps its value. A peer entry with `remove`
   deletes the peer. One with `update_only` changes a peer the device has and creates none.
   Any other entry creates the peer or changes it, its allowed IPs appended to the ones it has
   unless `replace_allowed_ips` replaces them. The device's peers are a partial function of
   their keys. -/

import Libtelio.Lib.EventLog
import Libtelio.TelioWg.Uapi

set_option autoImplicit false
set_option relaxedAutoImplicit false

namespace Libtelio.TelioWg

open Libtelio.Net Libtelio.TelioCrypto Libtelio.Lib.EventLog

/-- A peer as the device holds it. -/
structure DevicePeer where
  endpoint : Option SocketAddr
  persistentKeepaliveInterval : Option UInt16
  allowedIps : List SetAllowedIp
  deriving DecidableEq

/-- The device's configuration. -/
structure Device where
  privateKey : Option SecretKey
  listenPort : Option UInt16
  fwmark : UInt32
  peers : PublicKey → Option DevicePeer

/-- A peer of an interface as the device holds it: its keepalive as the device's `u16` and its
allowed IPs as network and prefix. -/
def DevicePeer.ofPeer (peer : Peer) : DevicePeer :=
  ⟨peer.endpoint, peer.persistentKeepaliveInterval.map UInt32.toUInt16,
    (SetPeer.ofPeer peer).allowedIps⟩

/-- The device configured as the interface says. -/
def Device.ofInterface (iface : Interface) : Device :=
  ⟨iface.privateKey, iface.listenPort, iface.fwmark,
    fun k => (iface.peers.lookup k).map DevicePeer.ofPeer⟩

/-- What one peer entry of a command makes of the peer of its key. -/
def peerAfter (current : Option DevicePeer) (entry : SetPeer) : Option DevicePeer :=
  if entry.remove = some true then none
  else
    match current with
    | none =>
      if entry.updateOnly = some true then none
      else some ⟨entry.endpoint, entry.persistentKeepaliveInterval, entry.allowedIps⟩
    | some old =>
      some ⟨entry.endpoint.or old.endpoint,
        entry.persistentKeepaliveInterval.or old.persistentKeepaliveInterval,
        (if entry.replaceAllowedIps = some true then [] else old.allowedIps) ++ entry.allowedIps⟩

/-- One peer entry applied to the device. -/
def Device.applyPeer (dev : Device) (entry : SetPeer) : Device :=
  let peer := peerAfter (dev.peers entry.publicKey) entry
  { dev with peers := Function.update dev.peers entry.publicKey peer }

/-- A set command applied to the device: the interface fields it carries, then its peer
entries in order. -/
def Device.apply (dev : Device) (cmd : SetDevice) : Device :=
  let dev := { dev with
    privateKey := cmd.privateKey.or dev.privateKey
    listenPort := cmd.listenPort.or dev.listenPort
    fwmark := cmd.fwmark.getD dev.fwmark
    peers := if cmd.replacePeers = some true then fun _ => none else dev.peers }
  cmd.peers.foldl Device.applyPeer dev

namespace Device

@[simp] theorem foldl_applyPeer_privateKey (entries : List SetPeer) (dev : Device) :
    (entries.foldl applyPeer dev).privateKey = dev.privateKey := by
  induction entries generalizing dev <;> simp_all [applyPeer]

@[simp] theorem foldl_applyPeer_listenPort (entries : List SetPeer) (dev : Device) :
    (entries.foldl applyPeer dev).listenPort = dev.listenPort := by
  induction entries generalizing dev <;> simp_all [applyPeer]

@[simp] theorem foldl_applyPeer_fwmark (entries : List SetPeer) (dev : Device) :
    (entries.foldl applyPeer dev).fwmark = dev.fwmark := by
  induction entries generalizing dev <;> simp_all [applyPeer]

/-- The entries of a command act on each key on their own: the peer of `k` afterwards is that
of the entries of `k`, applied in order. -/
theorem foldl_applyPeer_peers (entries : List SetPeer) (dev : Device) (k : PublicKey) :
    (entries.foldl applyPeer dev).peers k =
      (forKey SetPeer.publicKey entries k).foldl peerAfter (dev.peers k) := by
  induction entries generalizing dev with
  | nil => rfl
  | cons entry rest ih =>
    rw [List.foldl_cons, ih]
    by_cases hk : entry.publicKey = k
    · subst hk
      rw [forKey_cons_of_key _ _ _ rfl]
      simp [applyPeer]
    · rw [forKey_cons_of_ne _ _ _ hk]
      simp [applyPeer, Function.update_of_ne (Ne.symm hk)]

end Device

end Libtelio.TelioWg
