import VirtualNet.Tcp.Flags
import VirtualNet.Tcp.PseudoHeader

/-!
# TCP headers

A header is twenty octets; options are neither written nor accepted. `Header.toBytes` writes a
header with whatever its checksum field holds, `Header.sealFor` fills that field in for the
addresses and the payload that it covers, and `Header.parse` reads a header from the front of a
string without judging its checksum.
-/

namespace VirtualNet.Tcp

/-- A TCP header. -/
structure Header where
  sourcePort : UInt16
  destinationPort : UInt16
  sequenceNumber : UInt32
  acknowledgmentNumber : UInt32
  /-- The length of the header in 32-bit words. -/
  dataOffset : UInt8
  flags : Flags
  windowSize : UInt16
  /-- The checksum as its two octets read low octet first. -/
  checksum : UInt16
  urgentPointer : UInt16
  deriving DecidableEq, Repr

namespace Header

/-- A header between two ports, with the widest window and no flag set. -/
def create (sourcePort destinationPort : UInt16) : Header where
  sourcePort := sourcePort
  destinationPort := destinationPort
  sequenceNumber := 0
  acknowledgmentNumber := 0
  dataOffset := 5
  flags := Flags.none
  windowSize := 65535
  checksum := 0
  urgentPointer := 0

/-- The header with other flags. -/
def withFlags (header : Header) (flags : Flags) : Header :=
  { header with flags := flags }

/-- The header with another sequence number. -/
def withSequence (header : Header) (number : UInt32) : Header :=
  { header with sequenceNumber := number }

/-- The header with another acknowledgment number, and with the flag that makes it count. -/
def withAcknowledgment (header : Header) (number : UInt32) : Header :=
  { header with
    acknowledgmentNumber := number
    flags := { header.flags with ack := true } }

/-- The header with another window. -/
def withWindowSize (header : Header) (size : UInt16) : Header :=
  { header with windowSize := size }

/-- The header with its checksum field set to zero. -/
def cleared (header : Header) : Header :=
  { header with checksum := 0 }

/-- The length of the header in octets. -/
def headerLength (header : Header) : Nat :=
  header.dataOffset.toNat * 4

/-- The header as it travels, with the checksum that it holds. -/
def toBytes (header : Header) : Bytes :=
  Bytes.ofWord16 header.sourcePort ++
    Bytes.ofWord16 header.destinationPort ++
    Bytes.ofWord32 header.sequenceNumber ++
    Bytes.ofWord32 header.acknowledgmentNumber ++
    [header.dataOffset <<< 4, header.flags.toOctet] ++
    Bytes.ofWord16 header.windowSize ++
    Checksum.store header.checksum ++
    Bytes.ofWord16 header.urgentPointer

@[simp]
theorem length_toBytes (header : Header) : header.toBytes.length = 20 := rfl

/--
Fills in the checksum that covers the addresses, the header and the payload. The header that
results is given beside the outcome: where no checksum can be computed, its field is zero.
-/
def sealFor (header : Header) (source destination : Ipv4Address) (payload : Bytes) :
    Except PacketError Bytes × Header :=
  match computeChecksum source destination header.cleared.toBytes payload with
  | .ok checksum =>
    let finished := { header with checksum := checksum }
    (.ok finished.toBytes, finished)
  | .error error => (.error error, header.cleared)

/--
Reads a header from the front of a string. The header must be five words long; the checksum is
read and not judged.
-/
def parse : Bytes → Except PacketError Header
  | source₁ :: source₂ :: destination₁ :: destination₂ ::
      sequence₁ :: sequence₂ :: sequence₃ :: sequence₄ ::
      acknowledgment₁ :: acknowledgment₂ :: acknowledgment₃ :: acknowledgment₄ ::
      offset :: flags :: window₁ :: window₂ :: checksum₁ :: checksum₂ ::
      urgent₁ :: urgent₂ :: _ =>
    if offset / 16 ≠ 5 then .error .invalidHeaderFormat
    else
      .ok {
        sourcePort := Bytes.word16 source₁ source₂
        destinationPort := Bytes.word16 destination₁ destination₂
        sequenceNumber := Bytes.word32 sequence₁ sequence₂ sequence₃ sequence₄
        acknowledgmentNumber :=
          Bytes.word32 acknowledgment₁ acknowledgment₂ acknowledgment₃ acknowledgment₄
        dataOffset := offset / 16
        flags := Flags.ofOctet flags
        windowSize := Bytes.word16 window₁ window₂
        checksum := Checksum.load checksum₁ checksum₂
        urgentPointer := Bytes.word16 urgent₁ urgent₂ }
  | _ => .error .invalidLength

end Header

end VirtualNet.Tcp
