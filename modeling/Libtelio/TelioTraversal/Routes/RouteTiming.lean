/- When an entry's transition time is written.

   `get_state` reports the time since `last_sm_transition`, and the pass of
   `handle_peer_states` compares it with the grace period and the timeouts. The time is
   written by `Start` (`start_sent_call_me_maybe`) and `Ping` (`start_pinging`) only:
   `switch_route` guards its write with `!matches!(self.state.clone(), _old_state)`, and the
   identifier pattern `_old_state` matches every value, so `Activate` (`connect_route`) and
   `Break` (`disconnect_route`) keep the time of the transition before them.

   So a route broken after its handshake timed out is at once past its grace period: the next
   pass starts a new handshake although the route entered `DisconnectedByBreak` a moment
   before (`grace_period_skipped_after_break`). -/

import Mathlib
import Libtelio.TelioTraversal.Routes.RouteInvariant

set_option autoImplicit false
set_option relaxedAutoImplicit false
set_option mvcgen.warning false

namespace Libtelio.TelioTraversal.Routes

open Std.Do Libtelio.Net Libtelio.TelioCrypto Libtelio.TelioProto Libtelio.Lib

namespace UdpHolePunch

open Libtelio.Lib.Run

/-- The handshake started at 1 s times out at 6 s and the route breaks; at that moment
`get_state` already reports 5 s in `DisconnectedByBreak`, the time since the handshake
started, and the pass at 6.001 s starts a new handshake one millisecond after the break, within
the 5 s `DISCONNECTED_GRACE_PERIOD`. -/
theorem grace_period_skipped_after_break :
    ((run step State.new [.setNodes [peer] 0, passAt 1000000000]).db.entries.get peer).map
        (·.getState 1000000000) = some (.sentCallMeMaybeByStart, 0) ∧
    ((run step State.new [.setNodes [peer] 0, passAt 1000000000, passAt 6000000000]).db.entries.get
        peer).map (·.getState 6000000000) = some (.disconnectedByBreak, 5000000000) ∧
    ((run step State.new [.setNodes [peer] 0, passAt 1000000000, passAt 6000000000,
        passAt 6001000000]).db.entries.get peer).map (·.state) =
      some .sentCallMeMaybeByStart ∧
    6001000000 - 6000000000 < disconnectedGracePeriod := by
  decide

end UdpHolePunch

end Libtelio.TelioTraversal.Routes
