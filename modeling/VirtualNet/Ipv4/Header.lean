import VirtualNet.Address
import VirtualNet.Checksum
import VirtualNet.Ipv4.Protocol
import VirtualNet.Packet.Error

/-!
# IPv4 headers

A header is twenty octets; options are neither written nor accepted. `Header.toBytes` writes a
header with whatever its checksum field holds, `Header.sealed` fills that field in, and
`Header.parse` reads a header from the front of a string without judging its checksum.

A header may hold any field values: `Header.parse` yields version 4 and five words of header
only, while a header read from its serialized form may hold others. The lengths of such a header
need not fit the machine word, so `Header.headerLength` and `Header.payloadLength` may fail.
-/

namespace VirtualNet.Ipv4

/-- The time to live of a header for which none was chosen. -/
def defaultTimeToLive : UInt8 := 16

/-- Where the checksum stands in a header. -/
def checksumOffset : Nat := 10

/-- An IPv4 header. -/
structure Header where
  version : UInt8
  /-- The length of the header in 32-bit words. -/
  headerWords : UInt8
  typeOfService : UInt8
  totalLength : UInt16
  identification : UInt16
  flagsAndOffset : UInt16
  timeToLive : UInt8
  protocol : Protocol
  /-- The checksum as its two octets read low octet first. -/
  checksum : UInt16
  source : Ipv4Address
  destination : Ipv4Address
  deriving DecidableEq, Repr

namespace Header

/-- The length of a header as it travels. -/
def wireLength : Nat := 20

/-- A header without payload, checksum or options. -/
def create (protocol : Protocol) (source destination : Ipv4Address) : Header where
  version := 4
  headerWords := 5
  typeOfService := 0
  totalLength := 20
  identification := 0
  flagsAndOffset := 0
  timeToLive := defaultTimeToLive
  protocol := protocol
  checksum := 0
  source := source
  destination := destination

/-- The header with another time to live; the checksum is kept as it is. -/
def withTimeToLive (header : Header) (timeToLive : UInt8) : Header :=
  { header with timeToLive := timeToLive }

/-- The header with another identification; the checksum is kept as it is. -/
def withIdentification (header : Header) (identification : UInt16) : Header :=
  { header with identification := identification }

/-- The header with another protocol; the checksum is kept as it is. -/
def withProtocol (header : Header) (protocol : Protocol) : Header :=
  { header with protocol := protocol }

/-- The header of a packet of `size` octets, refused above the MTU and above 65535. -/
def withTotalLength (header : Header) (size mtu : Nat) : Except PacketError Header :=
  if mtu < size ∨ 65535 < size then .error (.tooLarge size mtu)
  else .ok { header with totalLength := size.toUInt16 }

/--
The header of a packet whose payload has the given length. A length so large that adding the
header leaves the 64-bit word is an overflow.
-/
def withPayloadLength (header : Header) (length mtu : Nat) : Except PacketError Header :=
  if UInt64.size ≤ wireLength + length then .error (.overflow .addition)
  else header.withTotalLength (wireLength + length) mtu

/-- The length of the header in octets, computed in the octet that holds its words. -/
def headerLength (header : Header) : Except PacketError Nat :=
  if 255 < header.headerWords.toNat * 4 then .error (.overflow .multiplication)
  else .ok (header.headerWords.toNat * 4)

/-- The length of what follows the header. -/
def payloadLength (header : Header) : Except PacketError Nat :=
  if header.totalLength.toNat < wireLength then .error (.overflow .subtraction)
  else .ok (header.totalLength.toNat - wireLength)

/-- The header as it travels, with the checksum that it holds. -/
def toBytes (header : Header) : Bytes :=
  [(header.version <<< 4) ||| header.headerWords, header.typeOfService] ++
    Bytes.ofWord16 header.totalLength ++
    Bytes.ofWord16 header.identification ++
    Bytes.ofWord16 header.flagsAndOffset ++
    [header.timeToLive, header.protocol.number] ++
    Checksum.store header.checksum ++
    header.source.octets ++
    header.destination.octets

@[simp]
theorem length_toBytes (header : Header) : header.toBytes.length = 20 := rfl

/-- The checksum that the header should hold, whatever it does hold. -/
def computeChecksum (header : Header) : UInt16 :=
  Checksum.compute { header with checksum := 0 }.toBytes

/-- Whether the checksum that the header holds is right. -/
def verifyChecksum (header : Header) : Bool :=
  Checksum.verify header.toBytes

/-- The header with its checksum filled in. -/
def sealed (header : Header) : Header :=
  { header with checksum := header.computeChecksum }

/--
Reads a header from the front of a string. The total length must cover the header and fit the
string; the checksum is read and not judged.
-/
def parse (bytes : Bytes) : Except PacketError Header :=
  match bytes with
  | start :: typeOfService :: length₁ :: length₂ :: identification₁ :: identification₂ ::
      flags₁ :: flags₂ :: timeToLive :: protocol :: checksum₁ :: checksum₂ ::
      source₁ :: source₂ :: source₃ :: source₄ ::
      destination₁ :: destination₂ :: destination₃ :: destination₄ :: _ =>
    let totalLength := Bytes.word16 length₁ length₂
    if start / 16 ≠ 4 then .error .invalidVersion
    else if start % 16 ≠ 5 then .error .invalidHeaderFormat
    else if totalLength.toNat < wireLength ∨ bytes.length < totalLength.toNat then
      .error .invalidLength
    else
      .ok {
        version := start / 16
        headerWords := start % 16
        typeOfService := typeOfService
        totalLength := totalLength
        identification := Bytes.word16 identification₁ identification₂
        flagsAndOffset := Bytes.word16 flags₁ flags₂
        timeToLive := timeToLive
        protocol := Protocol.ofNumber protocol
        checksum := Checksum.load checksum₁ checksum₂
        source := ⟨source₁, source₂, source₃, source₄⟩
        destination := ⟨destination₁, destination₂, destination₃, destination₄⟩ }
  | _ => .error .invalidLength

end Header

end VirtualNet.Ipv4
