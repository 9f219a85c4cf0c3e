/- The firewall's network whitelist against the configuration.

   `update_map` whitelists the networks of each node it upserts that accepts incoming
   connections, and takes off those of a node that does not, or that the new configuration
   drops. It never takes off the networks a kept node no longer has: a peer whose address
   changes between two configurations stays whitelisted at its old address
   (`changed_peer_address_stays_whitelisted`). -/

import Libtelio.Device.ExitNodeSpec

set_option autoImplicit false
set_option relaxedAutoImplicit false

namespace Libtelio.Device

open Libtelio.Net Libtelio.TelioCrypto Libtelio.TelioModel Libtelio.Lib.EState Libtelio.Lib.Run

/-- The same peer, accepting incoming connections, first at 100.64.0.1 and then at
100.64.0.9. -/
def movedPeerBefore : Config := ⟨some [meshPeer 1 true (Ipv4Addr.new 100 64 0 1)]⟩

def movedPeerAfter : Config := ⟨some [meshPeer 1 true (Ipv4Addr.new 100 64 0 9)]⟩

/-- Both configurations, one after the other. -/
def movedPeerRun : Runtime :=
  run step Runtime.new
    [portSync, .setConfig (some movedPeerBefore) okEnv, .setConfig (some movedPeerAfter) okEnv]

/-- The one peer of the current configuration has the address 100.64.0.9 only, and the
network whitelist still holds 100.64.0.1. -/
theorem changed_peer_address_stays_whitelisted :
    movedPeerRun.requestedState.meshnetConfig = some movedPeerAfter ∧
      (Node.ofPeer (meshPeer 1 true (Ipv4Addr.new 100 64 0 9))).allowedIps =
        [IpNetwork.ofIpAddr (.v4 (Ipv4Addr.new 100 64 0 9))] ∧
      IpNetwork.ofIpAddr (.v4 (Ipv4Addr.new 100 64 0 9)) ∈
        movedPeerRun.firewall.whitelist.networkWhitelist ∧
      IpNetwork.ofIpAddr (.v4 (Ipv4Addr.new 100 64 0 1)) ∈
        movedPeerRun.firewall.whitelist.networkWhitelist := by
  decide

end Libtelio.Device
