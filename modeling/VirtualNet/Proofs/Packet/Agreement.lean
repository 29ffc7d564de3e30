import VirtualNet.Proofs.Packet.Corruption
import VirtualNet.Proofs.Packet.Reassembly

/-!
# The checksum as received and the checksum of the segment

A receiver sums the octets of a TCP segment as they came. The segment that was read from them is
summed as it is written again, and reading drops the reserved bits. The sums are over the same
octets if these bits are clear. Otherwise they are over strings that differ in one octet, and no two
such strings both verify.
-/

namespace VirtualNet

namespace Checksum

/-- If a string verifies before and after one octet is changed, nothing was changed. -/
theorem modify_eq_of_verify {front bytes : Bytes} {index : Nat} {change : UInt8 → UInt8}
    (short : (front ++ bytes).length ≤ maxLength) (before : verify (front ++ bytes) = true)
    (after : verify (front ++ bytes.modify index change) = true) :
    bytes.modify index change = bytes := by
  by_cases inside : index < bytes.length
  · rcases List.exists_of_modify change inside with ⟨ahead, octet, behind, stands, -, changed⟩
    rw [stands, ← List.append_assoc] at short before
    rw [changed, ← List.append_assoc] at after
    rw [changed, stands, eq_of_verify short before after]
  · exact List.modify_eq_self (Nat.le_of_not_lt inside)

end Checksum

namespace Tcp.Header

variable {bytes : Bytes}

/-- A header that was read and what followed it are written as they came, up to reserved bits. -/
theorem kept_append_drop (bytes : Bytes) :
    kept bytes ++ bytes.drop 20 = bytes.modify 12 (· &&& 0xF0) := by
  have behind : (bytes.modify 12 (· &&& 0xF0)).drop 20 = bytes.drop 20 :=
    List.drop_modify_of_lt _ 12 20 bytes (by decide)
  rw [kept, ← List.take_modify, ← behind, List.take_append_drop]

theorem modify_eq_self_iff (long : 20 ≤ bytes.length) :
    bytes.modify 12 (· &&& 0xF0) = bytes ↔ bytes.getD 12 0 &&& 15 = 0 := by
  have split := List.take_append_drop 20 bytes
  rw [← kept_eq_take_iff long, ← kept_append_drop]
  constructor
  · intro same
    exact List.append_cancel_right (same.trans split.symm)
  · intro same
    rw [same, split]

end Tcp.Header

namespace Packet

variable {bytes data : Bytes} {packet : Packet} {tcpHeader : Tcp.Header}

/-- The checksum of the segment that a packet carries covers the octets that are written again. -/
theorem verifyChecksum_of_carried (wellFormed : packet.WellFormed)
    (carried : packet.tcpSegment = .ok (tcpHeader, data)) :
    ((Tcp.Segment.create tcpHeader packet.header.source
        packet.header.destination).withPayload data).verifyChecksum =
      Checksum.verify
        (packet.pseudoHeader.toBytes ++ packet.payload.modify 12 (· &&& 0xF0)) := by
  rcases tcpSegment_eq_ok_iff.mp carried with ⟨-, read, rfl⟩
  rcases Tcp.Header.kept_of_parse read with ⟨long, -, -, written⟩
  have wholeLength : 20 + (packet.payload.drop 20).length = packet.payload.length := by
    rw [List.length_drop, Nat.add_sub_of_le long]
  have fits : ¬65535 < 20 + (packet.payload.drop 20).length := by
    have wholeFits := wellFormed.fits
    omega
  rw [Tcp.Segment.verifyChecksum_eq, ← Tcp.Header.kept_append_drop, ← written,
    ← List.append_assoc, pseudoHeader, ← wholeLength]
  exact if_neg fits

/--
The receiver's check of a TCP packet has an answer. It is that of the segment which was read from
the packet if the low half of the octet that tells the length of the TCP header is clear; otherwise
the two checks are not both passed.
-/
theorem checks_alike_up_to_reserved_bits (parsed : parse bytes = .ok packet)
    (carried : packet.tcpSegment = .ok (tcpHeader, data)) :
    let segment := (Tcp.Segment.create tcpHeader packet.header.source
      packet.header.destination).withPayload data
    ∃ right, packet.tcpChecksumRight = .ok right ∧
      if packet.payload.getD 12 0 &&& 15 = 0 then right = segment.verifyChecksum
      else ¬(right = true ∧ segment.verifyChecksum = true) := by
  rcases wellFormed_of_parse parsed with ⟨wellFormed, -, -⟩
  rcases tcpSegment_eq_ok_iff.mp carried with ⟨-, read, -⟩
  rcases Tcp.Header.toBytes_of_parse read with ⟨-, long, -⟩
  have written := Tcp.Header.modify_eq_self_iff long
  intro segment
  refine ⟨_, tcpChecksumRight_of_carried wellFormed long carried, ?_⟩
  rw [verifyChecksum_of_carried wellFormed carried]
  by_cases clear : packet.payload.getD 12 0 &&& 15 = 0
  · rw [if_pos clear, written.mpr clear]
  · rw [if_neg clear]
    rintro ⟨received, rewritten⟩
    apply clear
    exact written.mp
      (Checksum.modify_eq_of_verify wellFormed.length_covered_le received rewritten)

/-- A segment that verifies may be refused as it came, because of the bits that reading drops. -/
theorem refused_for_reserved_bits :
    let bytes : Bytes := [69, 0, 0, 43, 0, 0, 0, 0, 16, 6, 41, 122, 192, 168, 0, 1, 192, 168, 0, 2,
      48, 57, 0, 80, 0, 0, 0, 0, 0, 0, 0, 0, 95, 0, 255, 255, 148, 155, 0, 0, 72, 105, 33, 7]
    ∃ packet tcpHeader, parse bytes = .ok packet ∧
      packet.tcpSegment = .ok (tcpHeader, [72, 105, 33]) ∧
      ((Tcp.Segment.create tcpHeader packet.header.source
        packet.header.destination).withPayload [72, 105, 33]).verifyChecksum = true ∧
      packet.tcpChecksumRight = .ok false := by
  intro bytes
  let ipHeader : Ipv4.Header :=
    ⟨4, 5, 0, 43, 0, 0, 16, .tcp, 31273, ⟨192, 168, 0, 1⟩, ⟨192, 168, 0, 2⟩⟩
  let tcpHeader : Tcp.Header := ⟨12345, 80, 0, 0, 5, .none, 65535, 39828, 0⟩
  let packet : Packet := ⟨ipHeader, bytes.extract 20 43⟩
  have parsed : parse bytes = .ok packet := by cbv
  have carried : packet.tcpSegment = .ok (tcpHeader, [72, 105, 33]) := by cbv
  have verified : ((Tcp.Segment.create tcpHeader packet.header.source
      packet.header.destination).withPayload [72, 105, 33]).verifyChecksum = true := by cbv
  have marked : packet.payload.getD 12 0 &&& 15 ≠ 0 := by decide
  rcases checks_alike_up_to_reserved_bits parsed carried with ⟨right, answered, apart⟩
  rw [if_neg marked] at apart
  refine ⟨packet, tcpHeader, parsed, carried, verified, ?_⟩
  cases right with
  | false => exact answered
  | true => exact absurd ⟨rfl, verified⟩ apart

end Packet

end VirtualNet
