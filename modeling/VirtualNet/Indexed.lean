import VirtualNet.Link

/-!
# Reading by index

Whoever receives reads the fields of a string by index, cuts its parts out by range and sums it up
in a machine word. Nothing else stands between a received string and the machine: it breaks off
where an index or a range leaves the string and where a sum leaves the word. `Indexed` reads headers
and packets in this way, so that what is refused (`PacketError`) and what breaks the reader off
(`Fault`) are kept apart.
-/

namespace VirtualNet

/-- Why a reader breaks off. -/
inductive Fault where
  | index (position length : Nat)
  | rangeStart (first length : Nat)
  | rangeEnd (last length : Nat)
  | rangeOrder (first last : Nat)
  | overflow (cause : Overflow)
  deriving DecidableEq, Repr

/-- The report of a reader that breaks off. -/
def Fault.message : Fault → String
  | .index position length =>
    s!"index out of bounds: the len is {length} but the index is {position}"
  | .rangeStart first length =>
    s!"range start index {first} out of range for slice of length {length}"
  | .rangeEnd last length => s!"range end index {last} out of range for slice of length {length}"
  | .rangeOrder first last => s!"slice index starts at {first} but ends at {last}"
  | .overflow cause => cause.message

namespace Indexed

/-! ### Fields and parts of a string -/

/-- The octet at an index. -/
def octet (bytes : Bytes) (index : Nat) : Except Fault UInt8 :=
  match bytes[index]? with
  | some octet => .ok octet
  | none => .error (.index index bytes.length)

/-- The octets from one index up to another. -/
def slice (bytes : Bytes) (first last : Nat) : Except Fault Bytes :=
  if last < first then .error (.rangeOrder first last)
  else if bytes.length < last then .error (.rangeEnd last bytes.length)
  else .ok ((bytes.take last).drop first)

/-- The octets from an index on. -/
def sliceFrom (bytes : Bytes) (first : Nat) : Except Fault Bytes :=
  if bytes.length < first then .error (.rangeStart first bytes.length)
  else .ok (bytes.drop first)

/-- The 16-bit field at an index, most significant octet first. -/
def word16 (bytes : Bytes) (index : Nat) : Except Fault UInt16 := do
  return Bytes.word16 (← octet bytes index) (← octet bytes (index + 1))

/-- The 32-bit field at an index, most significant octet first. -/
def word32 (bytes : Bytes) (index : Nat) : Except Fault UInt32 := do
  return Bytes.word32 (← octet bytes index) (← octet bytes (index + 1))
    (← octet bytes (index + 2)) (← octet bytes (index + 3))

/-- The checksum that is stored at an index. -/
def checksum (bytes : Bytes) (index : Nat) : Except Fault UInt16 := do
  return Checksum.load (← octet bytes index) (← octet bytes (index + 1))

/-- The address at an index. -/
def address (bytes : Bytes) (index : Nat) : Except Fault Ipv4Address := do
  return ⟨← octet bytes index, ← octet bytes (index + 1), ← octet bytes (index + 2),
    ← octet bytes (index + 3)⟩

/-! ### Sums in a machine word -/

/-- The sum of two words, if it is a word. -/
def add (left right : UInt64) : Except Fault UInt64 :=
  if UInt64.size ≤ left.toNat + right.toNat then .error (.overflow .addition)
  else .ok (left + right)

/-- Adds the words of a string to a running sum. -/
def accumulate (sum : UInt64) : Bytes → Except Fault UInt64
  | [] => .ok sum
  | [last] => add sum last.toUInt64
  | low :: high :: rest => do accumulate (← add sum (Checksum.word low high)) rest

theorem add_eq_ok {left right sum : UInt64} (added : add left right = .ok sum) :
    sum = left + right := by
  unfold add at added
  split at added
  · contradiction
  · exact (Except.ok.inj added).symm

/-- Adds the carries above the low 16 bits back in until none is left. -/
def fold (sum : UInt64) : Except Fault UInt64 :=
  if sum < 65536 then .ok sum
  else
    match _carried : add (sum % 65536) (sum / 65536) with
    | .ok smaller => fold smaller
    | .error fault => .error fault
termination_by sum.toNat
decreasing_by
  rename_i large
  exact add_eq_ok _carried ▸ Checksum.toNat_carried_lt large

/-- Whether a string that includes its checksum sums to zero. -/
def verify (bytes : Bytes) : Except Fault Bool := do
  let sum ← fold (← accumulate 0 bytes)
  return ~~~sum.toUInt16 == 0

/-! ### Headers and packets -/

/-- What is read by index and may be refused. -/
abbrev Inspection := ExceptT PacketError (Except Fault)

/-- Reads an IPv4 header from the front of a string. -/
def ipHeader (bytes : Bytes) : Inspection Ipv4.Header := do
  if bytes.length < Ipv4.Header.wireLength then throw .invalidLength
  else
    let version := (← octet bytes 0) >>> 4
    let headerWords := (← octet bytes 0) &&& 0x0F
    if version ≠ 4 then throw .invalidVersion
    else if headerWords ≠ 5 then throw .invalidHeaderFormat
    else
      let totalLength ← word16 bytes 2
      if totalLength.toNat < Ipv4.Header.wireLength ∨ bytes.length < totalLength.toNat then
        throw .invalidLength
      else
        return {
          version
          headerWords
          typeOfService := ← octet bytes 1
          totalLength
          identification := ← word16 bytes 4
          flagsAndOffset := ← word16 bytes 6
          timeToLive := ← octet bytes 8
          protocol := Ipv4.Protocol.ofNumber (← octet bytes 9)
          checksum := ← checksum bytes 10
          source := ← address bytes 12
          destination := ← address bytes 16 }

/-- Reads a packet from the front of a string. -/
def packet (bytes : Bytes) : Inspection Packet := do
  let header ← ipHeader bytes
  return ⟨header, ← slice bytes Ipv4.Header.wireLength header.totalLength.toNat⟩

/-- Receives a datagram into room for one MTU. -/
def receive (link : Link) (datagram : Bytes) : Inspection Packet := do
  let mtu := link.assembler.mtu
  let buffer := datagram.take mtu ++ List.replicate (mtu - datagram.length) 0
  packet (← slice buffer 0 (min datagram.length mtu))

/-- Reads a TCP header from the front of a string. -/
def tcpHeader (bytes : Bytes) : Inspection Tcp.Header := do
  if bytes.length < Tcp.Header.wireLength then throw .invalidLength
  else
    let dataOffset := (← octet bytes 12) >>> 4
    if dataOffset ≠ 5 then throw .invalidHeaderFormat
    else
      return {
        sourcePort := ← word16 bytes 0
        destinationPort := ← word16 bytes 2
        sequenceNumber := ← word32 bytes 4
        acknowledgmentNumber := ← word32 bytes 8
        dataOffset
        flags := Tcp.Flags.ofOctet (← octet bytes 13)
        windowSize := ← word16 bytes 14
        checksum := ← checksum bytes 16
        urgentPointer := ← word16 bytes 18 }

/-- Splits the payload of a packet into TCP header and data. -/
def tcpSegment (packet : Packet) : Inspection (Tcp.Header × Bytes) := do
  if packet.header.protocol ≠ .tcp then
    throw (.invalidField (.notTcp packet.header.protocol.number))
  else
    let header ← tcpHeader packet.payload
    return (header, ← sliceFrom packet.payload Tcp.Header.wireLength)

/-- Judges the checksum of the TCP segment that a packet carries. -/
def tcpChecksumRight (packet : Packet) : Inspection Bool := do
  let _ ← tcpSegment packet
  let header ← slice packet.payload 0 Tcp.Header.wireLength
  let data ← sliceFrom packet.payload Tcp.Header.wireLength
  let bytes ← Tcp.covered packet.header.source packet.header.destination header data
  verify bytes

/-- Judges the checksum in the IPv4 header of a packet. -/
def ipChecksumRight (packet : Packet) : Except Fault Bool :=
  verify packet.header.toBytes

end Indexed

end VirtualNet
