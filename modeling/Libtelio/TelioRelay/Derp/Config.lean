/- The relay server list (`derp/mod.rs`): `Config` and its `Server`s, with `reset`, which
   sorts the list by weight and marks every server unused, and `get_server`, which hands out
   the first unused one and marks it used. The STUN components walk the list with these two. -/

import Mathlib.Data.List.Sort
import Libtelio.Net.Addr
import Libtelio.TelioCrypto.Key

set_option autoImplicit false
set_option relaxedAutoImplicit false

namespace Libtelio.TelioRelay.Derp

open Libtelio.Net Libtelio.TelioCrypto

/-- `Server`, with the fields the traversal code reads. -/
structure Server where
  ipv4 : Ipv4Addr
  stunPort : UInt16
  stunPlaintextPort : UInt16
  publicKey : PublicKey
  weight : UInt32
  used : Bool
  deriving DecidableEq, Repr

/-- `Config`, with the fields the traversal code reads. -/
structure Config where
  secretKey : SecretKey
  servers : List Server
  meshIp : IpAddr
  deriving DecidableEq, Repr

namespace Config

/-- `Config::reset`: `sort_by` weight, then every `used` flag cleared. `sort_by` is stable,
and a stable sort has one result: that of `insertionSort`. -/
def reset (self : Config) : Config :=
  { self with
    servers := (self.servers.insertionSort fun a b => a.weight ≤ b.weight).map
      fun server => { server with used := false } }

/-- The loop of `get_server` over a server list. -/
def getServerFrom : List Server → List Server × Option Server
  | [] => ([], none)
  | server :: rest =>
    if !server.used then
      ({ server with used := true } :: rest, some { server with used := true })
    else
      let (rest', found) := getServerFrom rest
      (server :: rest', found)

/-- `Config::get_server`: the first unused server, now marked used. -/
def getServer (self : Config) : Config × Option Server :=
  let (servers, found) := getServerFrom self.servers
  ({ self with servers }, found)

end Config

end Libtelio.TelioRelay.Derp
