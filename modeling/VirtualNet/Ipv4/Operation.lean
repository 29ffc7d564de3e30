import VirtualNet.Ipv4.Header

/-!
# Preparing a header in place

Whoever owns a header changes it in place, by one operation after another. An operation may be
refused on the way, and what it changed before that stays changed. The operations that set a field
keep the checksum as it is, so a header is sealed last.
-/

namespace VirtualNet.Ipv4

namespace Header

/-- What is done to a header in place and may fail on the way. -/
abbrev InPlace := ExceptT PacketError (StateM Header)

/-- Sets the total length for a payload of the given length. -/
def setPayloadLength (length mtu : Nat) : InPlace Unit := do
  if UInt64.size ≤ wireLength + length then throw (.overflow .addition)
  let size := wireLength + length
  if mtu < size ∨ 65535 < size then throw (.tooLarge size mtu)
  modify fun header => { header with totalLength := size.toUInt16 }

/-- Seals the header: clears the checksum, computes and stores it, and gives the octets. -/
def fillChecksum : InPlace Bytes := do
  modify fun header => { header with checksum := 0 }
  let bytes := (← get).toBytes
  let checksum := Checksum.compute bytes
  modify fun header => { header with checksum := checksum }
  return Checksum.put bytes checksumOffset checksum

/-- Writes the header and reads it again in front of other octets. -/
def reread (pad : Bytes) : InPlace Unit := do
  match parse ((← get).toBytes ++ pad) with
  | .ok header => set header
  | .error error => throw error

/-- A payload length that is refused leaves the header as it was. -/
theorem run_setPayloadLength (header : Header) (length mtu : Nat) :
    (setPayloadLength length mtu).run.run header =
      match header.withPayloadLength length mtu with
      | .ok changed => (.ok (), changed)
      | .error error => (.error error, header) := by
  simp only [setPayloadLength, withPayloadLength, withTotalLength]
  by_cases overflows : UInt64.size ≤ wireLength + length
  · simp only [if_pos overflows]
    rfl
  · simp only [if_neg overflows]
    by_cases large : mtu < wireLength + length ∨ 65535 < wireLength + length
    · simp only [if_pos large]
      rfl
    · simp only [if_neg large]
      rfl

theorem run_fillChecksum (header : Header) :
    fillChecksum.run.run header = (.ok header.sealed.toBytes, header.sealed) :=
  rfl

theorem run_reread (header : Header) (pad : Bytes) :
    (reread pad).run.run header =
      match parse (header.toBytes ++ pad) with
      | .ok read => (.ok (), read)
      | .error error => (.error error, header) := by
  change (ExceptT.run (match parse (header.toBytes ++ pad) with
    | .ok read => set read
    | .error error => throw error : InPlace Unit)).run header = _
  cases parse (header.toBytes ++ pad) with
  | error error => rfl
  | ok read => rfl

end Header

/-- What the owner of a header does with it. -/
inductive Operation where
  | setTimeToLive (timeToLive : UInt8)
  | setIdentification (identification : UInt16)
  | setProtocol (protocol : Protocol)
  | setPayloadLength (length mtu : Nat)
  | fillChecksum
  | reread (pad : Bytes)
  deriving DecidableEq, Repr

namespace Operation

/-- What an operation does. -/
def perform : Operation → Header.InPlace Unit
  | .setTimeToLive timeToLive => modify (·.withTimeToLive timeToLive)
  | .setIdentification identification => modify (·.withIdentification identification)
  | .setProtocol protocol => modify (·.withProtocol protocol)
  | .setPayloadLength length mtu => Header.setPayloadLength length mtu
  | .fillChecksum => discard Header.fillChecksum
  | .reread pad => Header.reread pad

/-- What an operation reports, and the header that it leaves. -/
def outcome (operation : Operation) (header : Header) : Except PacketError Unit × Header :=
  operation.perform.run.run header

/-- The header that an operation leaves to the next one, whether refused or not. -/
def advance (header : Header) (operation : Operation) : Except Overflow Header :=
  match operation.outcome header with
  | (.error (.overflow cause), _) => .error cause
  | (_, changed) => .ok changed

end Operation

/-- The header after a number of operations, unless one of them overflows. -/
def Header.prepare (header : Header) (operations : List Operation) : Except Overflow Header :=
  operations.foldlM Operation.advance header

end VirtualNet.Ipv4
