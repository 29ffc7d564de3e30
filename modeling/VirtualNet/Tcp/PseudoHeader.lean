import VirtualNet.Address
import VirtualNet.Checksum
import VirtualNet.Ipv4.Protocol
import VirtualNet.Packet.Error

/-!
# The TCP pseudo-header

The pseudo-header is never sent. It stands in front of a segment when the segment's checksum is
computed and so binds the addresses and the length of the segment into it: four octets of source,
four of destination, a zero, the protocol number, and the length of header and payload together.
-/

namespace VirtualNet.Tcp

/-- What the checksum of a segment covers beside the segment itself. -/
structure PseudoHeader where
  source : Ipv4Address
  destination : Ipv4Address
  segmentLength : UInt16
  deriving DecidableEq, Repr

namespace PseudoHeader

/-- The length of a pseudo-header. -/
def wireLength : Nat := 12

/-- The pseudo-header of a segment of the given length, if that length fits its field. -/
def create (source destination : Ipv4Address) (segmentLength : Nat) :
    Except PacketError PseudoHeader :=
  if 65535 < segmentLength then .error .invalidLength
  else .ok ⟨source, destination, segmentLength.toUInt16⟩

/-- The octets of a pseudo-header. -/
def toBytes (pseudo : PseudoHeader) : Bytes :=
  pseudo.source.octets ++ pseudo.destination.octets ++ [0, Ipv4.Protocol.tcp.number] ++
    Bytes.ofWord16 pseudo.segmentLength

@[simp]
theorem length_toBytes (pseudo : PseudoHeader) : pseudo.toBytes.length = 12 := rfl

end PseudoHeader

/-- The length of a TCP header as it travels. -/
def Header.wireLength : Nat := 20

/-- Where the checksum stands in a TCP header. -/
def checksumOffset : Nat := 16

/-- What the checksum of a segment is computed over; the header must be twenty octets. -/
def covered (source destination : Ipv4Address) (header payload : Bytes) :
    Except PacketError Bytes :=
  if header.length ≠ Header.wireLength then .error .invalidLength
  else do
    let pseudo ← PseudoHeader.create source destination (header.length + payload.length)
    return pseudo.toBytes ++ header ++ payload

/--
The checksum of a segment. The checksum field of the header must be zero already: a header that
holds a checksum is refused and not cleared.
-/
def computeChecksum (source destination : Ipv4Address) (header payload : Bytes) :
    Except PacketError UInt16 := do
  let bytes ← covered source destination header payload
  if (header.drop checksumOffset).take 2 ≠ [0, 0] then throw .checksumNotZeroed
  return Checksum.compute bytes

/-- Whether the checksum in the header of a segment is right. -/
def verifyChecksum (source destination : Ipv4Address) (header payload : Bytes) :
    Except PacketError Bool := do
  let bytes ← covered source destination header payload
  return Checksum.verify bytes

end VirtualNet.Tcp
