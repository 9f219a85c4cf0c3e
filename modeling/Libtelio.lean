import Libtelio.Lib.Run
import Libtelio.Lib.BigEndian
import Libtelio.Lib.Buffer
import Libtelio.Lib.InternetChecksum
import Libtelio.Lib.EState
import Libtelio.Lib.MultiMap
import Libtelio.Lib.EventLog
import Libtelio.Lib.KeyedMap
import Libtelio.Lib.Base64
import Libtelio.Lib.Hex
import Libtelio.Lib.MaxBy
import Libtelio.Lib.Collections
import Libtelio.Lib.Decimal
import Libtelio.Lib.Changes
import Libtelio.Net.Addr
import Libtelio.TelioCrypto.Key
import Libtelio.TelioCrypto.KeyText
import Libtelio.TelioRelay.Derp.Proto
import Libtelio.TelioRelay.Derp.Config
import Libtelio.TelioRelay.Derp.ServerList
import Libtelio.TelioRelay.Derp.DerpRelay
import Libtelio.TelioRelay.Derp.Connect
import Libtelio.TelioRelay.Derp.Handshake
import Libtelio.TelioFirewall.Packet
import Libtelio.TelioFirewall.Firewall
import Libtelio.TelioFirewall.Conntrack
import Libtelio.TelioFirewall.Malformed
import Libtelio.TelioDns.Packet
import Libtelio.TelioDns.Nameserver
import Libtelio.TelioProto.Packet
import Libtelio.TelioProto.DataSpec
import Libtelio.TelioProto.Codec
import Libtelio.TelioTraversal.Routes.Database
import Libtelio.TelioTraversal.Routes.UdpHolePunch
import Libtelio.TelioTraversal.Routes.EntrySpec
import Libtelio.TelioTraversal.Routes.RouteInvariant
import Libtelio.TelioTraversal.Routes.RouteTiming
import Libtelio.TelioTraversal.Routes.PeerIdSpec
import Libtelio.TelioTraversal.Routes.RouteChoice
import Libtelio.TelioTraversal.Routes.Stunner
import Libtelio.TelioTraversal.Routes.StunnerSpec
import Libtelio.TelioTraversal.Routes.StunnerRotation
import Libtelio.TelioTraversal.EndpointProviders.Provider
import Libtelio.TelioTraversal.EndpointProviders.Stun
import Libtelio.TelioTraversal.EndpointProviders.RxSpec
import Libtelio.TelioTraversal.EndpointProviders.LocalPoll
import Libtelio.TelioTraversal.Paths.Connection
import Libtelio.TelioTraversal.Paths.ConnectionSpec
import Libtelio.TelioWg.Uapi
import Libtelio.TelioWg.UapiParse
import Libtelio.TelioWg.UapiText
import Libtelio.TelioWg.Wg
import Libtelio.TelioWg.EventSpec
import Libtelio.TelioWg.Device
import Libtelio.TelioWg.SetSpec
import Libtelio.TelioModel.Mesh
import Libtelio.Device.Relay
import Libtelio.Device.Meshnet
import Libtelio.Device.Runtime
import Libtelio.Device.ExitNodeSpec
import Libtelio.Device.WhitelistSpec
import Libtelio.Device.PrivateKeySpec
import Libtelio.TelioNurse.Heartbeat
import Libtelio.TelioNurse.Matrix
import Libtelio.TelioNurse.Election
