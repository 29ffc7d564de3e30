import VirtualNet.Address.Socket
import VirtualNet.Ipv4.Header
import VirtualNet.Packet.Assembler
import VirtualNet.Session

/-!
# Configurations

What a game server and a virtual link are set up with. A configuration may hold any values;
`ServerConfig.validate` and `LinkConfig.validate` tell whether it can be worked with.
-/

namespace VirtualNet

/-- What a game server is set up with. -/
structure ServerConfig where
  bindAddress : SocketAddress
  /-- How many connections are served at a time; all of them where there is no limit. -/
  maxConnections : Option UInt64
  sessionMode : SessionMode
  range : TargetRange
  deriving DecidableEq, Repr

namespace ServerConfig

/-- The configuration of a server for which none was chosen. -/
def default : ServerConfig where
  bindAddress := .v4 Ipv4Address.unspecified 8888
  maxConnections := none
  sessionMode := .singleGuess
  range := TargetRange.default

/-- A server must be allowed a connection and its game must have a target. -/
def validate (config : ServerConfig) : Except ConfigError Unit :=
  if config.maxConnections = some 0 then .error .zeroConnectionLimit
  else config.range.validate

end ServerConfig

/-- What a virtual link is set up with. -/
structure LinkConfig where
  bindAddress : SocketAddress
  mtu : UInt64
  timeToLive : UInt8
  deriving DecidableEq, Repr

namespace LinkConfig

/-- The configuration of a link for which none was chosen. -/
def default : LinkConfig where
  bindAddress := .v4 Ipv4Address.localhost 5000
  mtu := Assembler.defaultMtu.toUInt64
  timeToLive := Ipv4.defaultTimeToLive

/-- A link must be able to carry an IPv4 header. -/
def validate (config : LinkConfig) : Except ConfigError Unit :=
  if config.mtu.toNat < Ipv4.Header.wireLength then .error (.mtuTooSmall config.mtu) else .ok ()

end LinkConfig

end VirtualNet
