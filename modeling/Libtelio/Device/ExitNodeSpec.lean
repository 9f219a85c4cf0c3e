/- At most one exit node, and it is the requested one.

   The meshnet refuses a second exit only when the exit is new to its map
   (`Meshnet.upsertNode`). A peer of the configuration is in the map already, so asking for a
   second peer as exit node while one is connected promotes it with no check: two nodes are
   exits, and disconnecting the requested one leaves the other
   (`second_mesh_exit_leaves_two_exits`).

   `connect_exit_node` is not atomic either: it records the exit node, and whitelists a VPN
   server's key, before the meshnet's upsert can fail (`connectExitNode_error`). A second VPN
   server refused as a duplicate exit stays the requested exit node, and
   `disconnect_exit_nodes` then fails to delete it from a map it never entered
   (`failed_exit_connect_not_undone`). -/

import Libtelio.Device.Runtime

set_option autoImplicit false
set_option relaxedAutoImplicit false
set_option mvcgen.warning false

namespace Libtelio.Device

open Std.Do Libtelio.Net Libtelio.TelioCrypto Libtelio.TelioModel Libtelio.Lib.EState
  Libtelio.Lib.Run

/-- Collaborators that answer every call with success, and a driver sync that reports the
adapter's listen port. -/
def okEnv : Env :=
  ⟨⟨true, ⟨0, none⟩⟩, ⟨.ok (), .ok (), .ok []⟩, .ok (), .ok (), .error "no resolver"⟩

def portSync : Op := .driverSync ⟨true, ⟨0, some ⟨none, some 51820, 0, ∅⟩⟩⟩

/-- A peer of the meshnet at 100.64.0.n. -/
def meshPeer (n : UInt8) (allowIncoming : Bool) (addr : Ipv4Addr) : Peer :=
  ⟨⟨PublicKey.filled n, "peer", some [.v4 addr]⟩, allowIncoming⟩

def twoPeers : Config :=
  ⟨some [meshPeer 1 false (Ipv4Addr.new 100 64 0 1), meshPeer 2 false (Ipv4Addr.new 100 64 0 2)]⟩

/-- The first peer as exit for all traffic, and the second as exit for its own address. -/
def exitA : ExitNode := ⟨PublicKey.filled 1, none, none⟩

def exitB : ExitNode :=
  ⟨PublicKey.filled 2, some [IpNetwork.ofIpAddr (.v4 (Ipv4Addr.new 100 64 0 2))], none⟩

/-- The first and then the second peer connected as exit nodes. -/
def twoMeshExits : Runtime :=
  run step Runtime.new
    [portSync, .setConfig (some twoPeers) okEnv, .connectExitNode exitA okEnv,
      .connectExitNode exitB okEnv]

/-- Both peers are exits; `disconnect_exit_nodes` then returns Ok with the first still an
exit. -/
theorem second_mesh_exit_leaves_two_exits :
    (twoMeshExits.meshnet.getNode exitA.publicKey).map (·.isExit) = some true ∧
      (twoMeshExits.meshnet.getNode exitB.publicKey).map (·.isExit) = some true ∧
      twoMeshExits.requestedState.exitNode = some exitB ∧
      (runOn (Runtime.disconnectExitNodes okEnv) twoMeshExits).2 = .ok () ∧
      ((runOn (Runtime.disconnectExitNodes okEnv) twoMeshExits).1.meshnet.getNode
        exitA.publicKey).map (·.isExit) = some true ∧
      (runOn (Runtime.disconnectExitNodes okEnv) twoMeshExits).1.requestedState.exitNode =
        none := by
  decide

/-- A VPN server at 10.0.0.n. -/
def vpnServer (n : UInt8) (allowedIps : Option (List IpNetwork)) : ExitNode :=
  ⟨PublicKey.filled n, allowedIps, some ⟨.v4 (Ipv4Addr.new 10 0 0 n), 51820⟩⟩

/-- One VPN server connected as exit for all traffic, and a second one asked for, for its own
address. -/
def firstVpnExit : Runtime := run step Runtime.new [.connectExitNode (vpnServer 7 none) okEnv]

def secondVpnExit : ExitNode :=
  vpnServer 8 (some [IpNetwork.ofIpAddr (.v4 (Ipv4Addr.new 10 0 0 8))])

def failedSecondExit : Runtime × Except Error Unit :=
  runOn (Runtime.connectExitNode secondVpnExit okEnv) firstVpnExit

/-- The second server is refused as a duplicate exit, yet it is the requested exit node and its
key is whitelisted; `disconnect_exit_nodes` then fails and keeps it requested. -/
theorem failed_exit_connect_not_undone :
    failedSecondExit.2 = .error .duplicateExitNode ∧
      firstVpnExit.requestedState.exitNode = some (vpnServer 7 none) ∧
      failedSecondExit.1.requestedState.exitNode = some secondVpnExit ∧
      secondVpnExit.publicKey ∉ firstVpnExit.firewall.whitelist.peerWhitelist ∧
      secondVpnExit.publicKey ∈ failedSecondExit.1.firewall.whitelist.peerWhitelist ∧
      (runOn (Runtime.disconnectExitNodes okEnv) failedSecondExit.1).2 = .error .invalidDelete ∧
      (runOn (Runtime.disconnectExitNodes okEnv) failedSecondExit.1).1.requestedState.exitNode =
        some secondVpnExit := by
  decide

end Libtelio.Device
