/- IP addresses, socket addresses and networks as `std::net` and the `ipnetwork` crate define
   them. An IPv4 address is the `u32` the code converts it to (`u32::from(Ipv4Addr)`), a network
   carries its prefix bound as a field, and `IpNetwork::contains` is the prefix match. -/

import Mathlib.Data.Vector.Basic

set_option autoImplicit false
set_option relaxedAutoImplicit false

namespace Libtelio.Net

/-- `std::net::Ipv4Addr`, as its big-endian `u32`. -/
structure Ipv4Addr where
  bits : UInt32
  deriving DecidableEq, Repr

/-- `std::net::Ipv6Addr`, as its big-endian `u128`. -/
structure Ipv6Addr where
  bits : BitVec 128
  deriving DecidableEq, Repr

/-- `Ipv4Addr::new(a, b, c, d)`. -/
def Ipv4Addr.new (a b c d : UInt8) : Ipv4Addr :=
  ⟨(a.toUInt32 <<< 24) ||| (b.toUInt32 <<< 16) ||| (c.toUInt32 <<< 8) ||| d.toUInt32⟩

/-- `std::net::IpAddr`. -/
inductive IpAddr
  | v4 (addr : Ipv4Addr)
  | v6 (addr : Ipv6Addr)
  deriving DecidableEq, Repr

/-- `std::net::SocketAddr`: an address and a port. -/
structure SocketAddr where
  ip : IpAddr
  port : UInt16
  deriving DecidableEq, Repr

/-- `ipnetwork::Ipv4Network`: the constructor rejects prefixes longer than 32. -/
structure Ipv4Network where
  addr : Ipv4Addr
  prefixLen : UInt8
  prefix_le : prefixLen.toNat ≤ 32
  deriving DecidableEq

/-- `ipnetwork::Ipv6Network`: the constructor rejects prefixes longer than 128. -/
structure Ipv6Network where
  addr : Ipv6Addr
  prefixLen : UInt8
  prefix_le : prefixLen.toNat ≤ 128
  deriving DecidableEq

/-- `ipnetwork::IpNetwork`. -/
inductive IpNetwork
  | v4 (net : Ipv4Network)
  | v6 (net : Ipv6Network)
  deriving DecidableEq

/-- `Ipv4Network::mask`: `!(0xffff_ffff_u64 >> prefix) as u32`, the top `prefix` bits set. -/
def Ipv4Network.mask (net : Ipv4Network) : UInt32 :=
  (~~~((0xffffffff : UInt64) >>> net.prefixLen.toUInt64)).toUInt32

/-- `Ipv4Network::contains`: the address agrees with the network on the masked bits. -/
def Ipv4Network.contains (net : Ipv4Network) (ip : Ipv4Addr) : Bool :=
  (ip.bits &&& net.mask) == (net.addr.bits &&& net.mask)

/-- `Ipv6Network::mask`, the top `prefix` of 128 bits set. -/
def Ipv6Network.mask (net : Ipv6Network) : BitVec 128 :=
  ~~~(BitVec.allOnes 128 >>> net.prefixLen.toNat)

/-- `Ipv6Network::contains`. -/
def Ipv6Network.contains (net : Ipv6Network) (ip : Ipv6Addr) : Bool :=
  (ip.bits &&& net.mask) == (net.addr.bits &&& net.mask)

/-- `IpNetwork::contains`: a network of one family contains no address of the other. -/
def IpNetwork.contains : IpNetwork → IpAddr → Bool
  | .v4 net, .v4 ip => net.contains ip
  | .v6 net, .v6 ip => net.contains ip
  | _, _ => false

/-- `IpNetwork::network`: the address with the host bits cleared. -/
def IpNetwork.network : IpNetwork → IpAddr
  | .v4 net => .v4 ⟨net.addr.bits &&& net.mask⟩
  | .v6 net => .v6 ⟨net.addr.bits &&& net.mask⟩

/-- `IpNetwork::ip`: the address the network was made of. -/
def IpNetwork.ip : IpNetwork → IpAddr
  | .v4 net => .v4 net.addr
  | .v6 net => .v6 net.addr

/-- `IpNetwork::prefix`. -/
def IpNetwork.prefixLen : IpNetwork → UInt8
  | .v4 net => net.prefixLen
  | .v6 net => net.prefixLen

/-- `From<IpAddr> for IpNetwork`: the network of the address alone. -/
def IpNetwork.ofIpAddr : IpAddr → IpNetwork
  | .v4 addr => .v4 ⟨addr, 32, by decide⟩
  | .v6 addr => .v6 ⟨addr, 128, by decide⟩

/-- An IPv4 network from an address and a prefix length, for concrete configurations. -/
def Ipv4Network.new (addr : Ipv4Addr) (prefixLen : UInt8) (short : prefixLen.toNat ≤ 32) :
    IpNetwork :=
  .v4 ⟨addr, prefixLen, short⟩

/-- `Ipv4Addr::is_loopback`: the network 127.0.0.0/8. -/
def Ipv4Addr.isLoopback (ip : Ipv4Addr) : Bool := ip.bits >>> 24 == 127

/-- `Ipv6Addr::is_loopback`: the address `::1`. -/
def Ipv6Addr.isLoopback (ip : Ipv6Addr) : Bool := ip.bits == 1

/-- `IpAddr::is_loopback`. -/
def IpAddr.isLoopback : IpAddr → Bool
  | .v4 ip => ip.isLoopback
  | .v6 ip => ip.isLoopback

/-- `ipnet::Ipv4Net`: `new` rejects prefixes longer than 32. -/
structure Ipv4Net where
  addr : Ipv4Addr
  prefixLen : UInt8
  prefix_le : prefixLen.toNat ≤ 32

/-- `Ipv4Net::netmask`: `u32::MAX.checked_shl(32 - prefix_len).unwrap_or(0)`. -/
def Ipv4Net.netmask (net : Ipv4Net) : UInt32 :=
  if 32 - net.prefixLen.toNat < 32 then 0xffffffff <<< (32 - net.prefixLen.toUInt32) else 0

/-- `Ipv4Net::hostmask`: `u32::MAX.checked_shr(prefix_len).unwrap_or(0)`. -/
def Ipv4Net.hostmask (net : Ipv4Net) : UInt32 :=
  if net.prefixLen.toNat < 32 then 0xffffffff >>> net.prefixLen.toUInt32 else 0

/-- `Ipv4Net::network`: the address with the host bits cleared. -/
def Ipv4Net.network (net : Ipv4Net) : Ipv4Addr := ⟨net.addr.bits &&& net.netmask⟩

/-- `Ipv4Net::broadcast`: the address with the host bits set. -/
def Ipv4Net.broadcast (net : Ipv4Net) : Ipv4Addr := ⟨net.addr.bits ||| net.hostmask⟩

/-- `Contains<&Ipv4Addr> for Ipv4Net`: `self.network() <= *other && *other <= self.broadcast()`,
the order of addresses being that of their `u32`. -/
def Ipv4Net.contains (net : Ipv4Net) (ip : Ipv4Addr) : Bool :=
  net.network.bits ≤ ip.bits && ip.bits ≤ net.broadcast.bits

end Libtelio.Net
