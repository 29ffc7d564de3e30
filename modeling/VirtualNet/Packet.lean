import VirtualNet.Ipv4.Header
import VirtualNet.Tcp.Header

/-!
# Virtual packets

A packet is an IPv4 header and a payload. `Packet.parse` reads a packet from the front of a string
and ignores what stands beyond the header's total length; `Packet.build` writes it back.
`Packet.tcpSegment` splits the payload of a TCP packet into TCP header and data.
-/

namespace VirtualNet

/-- A virtual IP packet. -/
structure Packet where
  header : Ipv4.Header
  payload : Bytes
  deriving DecidableEq, Repr

namespace Packet

/-- Reads a packet from the front of a string. -/
def parse (bytes : Bytes) : Except PacketError Packet := do
  let header ← Ipv4.Header.parse bytes
  return ⟨header, (bytes.take header.totalLength.toNat).drop Ipv4.Header.wireLength⟩

/-- The packet as it stands. -/
def build (packet : Packet) : Bytes :=
  packet.header.toBytes ++ packet.payload

/-- The length of the packet. -/
def length (packet : Packet) : Nat :=
  Ipv4.Header.wireLength + packet.payload.length

/-- Whether the checksum in the IPv4 header is right. -/
def ipChecksumRight (packet : Packet) : Bool :=
  packet.header.verifyChecksum

/-- A packet is valid if its header tells its length and holds the right checksum. -/
def validate (packet : Packet) : Except PacketError Unit :=
  if packet.length ≠ packet.header.totalLength.toNat then .error .invalidLength
  else if !packet.ipChecksumRight then .error .invalidChecksum
  else .ok ()

/-- The TCP header and the data of a packet that carries a TCP segment. -/
def tcpSegment (packet : Packet) : Except PacketError (Tcp.Header × Bytes) :=
  if packet.header.protocol ≠ .tcp then
    .error (.invalidField (.notTcp packet.header.protocol.number))
  else do
    let header ← Tcp.Header.parse packet.payload
    return (header, packet.payload.drop Tcp.Header.wireLength)

/-- Whether the checksum of the TCP segment that a packet carries is right. -/
def tcpChecksumRight (packet : Packet) : Except PacketError Bool := do
  let _ ← packet.tcpSegment
  Tcp.verifyChecksum packet.header.source packet.header.destination
    (packet.payload.take Tcp.Header.wireLength) (packet.payload.drop Tcp.Header.wireLength)

end Packet

end VirtualNet
