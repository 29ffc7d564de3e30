import VirtualNet.Tcp.Header

/-!
# TCP segments

A segment is a header and a payload together with the addresses that its checksum covers; the
addresses do not travel with it. `Segment.build` writes the segment as it stands and
`Segment.sealed` fills its checksum in first.
-/

namespace VirtualNet.Tcp

/-- A TCP segment between two virtual hosts. -/
structure Segment where
  header : Header
  source : Ipv4Address
  destination : Ipv4Address
  payload : Bytes
  deriving DecidableEq, Repr

namespace Segment

/-- A segment without payload. -/
def create (header : Header) (source destination : Ipv4Address) : Segment :=
  ⟨header, source, destination, []⟩

/-- The segment with another payload; the checksum is kept as it is. -/
def withPayload (segment : Segment) (payload : Bytes) : Segment :=
  { segment with payload := payload }

/-- The length of the segment by its header's own account of itself. -/
def length (segment : Segment) : Nat :=
  segment.header.headerLength + segment.payload.length

/-- A segment is valid if its length fits the 16-bit field of the pseudo-header. -/
def validate (segment : Segment) : Except PacketError Unit :=
  if 65535 < segment.length then .error .invalidLength else .ok ()

/-- The segment as it stands. -/
def build (segment : Segment) : Bytes :=
  segment.header.toBytes ++ segment.payload

/--
The octets of the segment with a fresh checksum, and the segment as that leaves it: where no
checksum can be computed, the checksum field is zero.
-/
def sealed (segment : Segment) : Except PacketError Bytes × Segment :=
  let (result, header) :=
    segment.header.sealFor segment.source segment.destination segment.payload
  (result.map (· ++ segment.payload), { segment with header := header })

/-- The checksum that the segment should hold, or zero if it is not valid. -/
def computeChecksum (segment : Segment) : UInt16 :=
  match segment.validate with
  | .error _ => 0
  | .ok () =>
    match segment.header.sealFor segment.source segment.destination segment.payload with
    | (.ok _, header) => header.checksum
    | (.error _, _) => 0

/-- Whether the checksum that the segment holds is right. -/
def verifyChecksum (segment : Segment) : Bool :=
  match Tcp.verifyChecksum segment.source segment.destination segment.header.toBytes
      segment.payload with
  | .ok right => right
  | .error _ => false

end Segment

end VirtualNet.Tcp
