import VirtualNet.Proofs.Checksum.Verification
import VirtualNet.Tcp.Header

/-!
# TCP headers on the wire

A header of five words is read back as it was written, whatever follows it. `Header.finished` is
the header that sealing leaves, and its checksum verifies.
-/

namespace VirtualNet.Tcp

theorem covered_eq {header payload : Bytes} (source destination : Ipv4Address)
    (wireLength : header.length = 20) :
    covered source destination header payload =
      if 65535 < 20 + payload.length then .error .invalidLength
      else .ok ((⟨source, destination, (20 + payload.length).toUInt16⟩ : PseudoHeader).toBytes ++
        header ++ payload) := by
  simp only [covered, wireLength, PseudoHeader.create, Header.wireLength, ne_eq,
    not_true_eq_false, if_false]
  split <;> rfl

theorem verifyChecksum_eq {header : Bytes} (source destination : Ipv4Address)
    (wireLength : header.length = 20) (payload : Bytes) :
    verifyChecksum source destination header payload =
      if 65535 < 20 + payload.length then .error .invalidLength
      else .ok (Checksum.verify
        ((⟨source, destination, (20 + payload.length).toUInt16⟩ : PseudoHeader).toBytes ++
          header ++ payload)) := by
  rw [verifyChecksum, covered_eq source destination wireLength]
  split
  · rfl
  · rfl

/-- All that the checksum of a segment covers, if the segment fits its pseudo-header. -/
def addressed (source destination : Ipv4Address) (header payload : Bytes) : Bytes :=
  (⟨source, destination, (20 + payload.length).toUInt16⟩ : PseudoHeader).toBytes ++ header ++
    payload

theorem computeChecksum_eq (source destination : Ipv4Address) (header payload : Bytes) :
    computeChecksum source destination header payload =
      if header.length ≠ 20 ∨ 65535 < 20 + payload.length then .error .invalidLength
      else if (header.drop 16).take 2 ≠ [0, 0] then .error .checksumNotZeroed
      else .ok (Checksum.compute (addressed source destination header payload)) := by
  by_cases wireLength : header.length = 20
  · rw [computeChecksum, covered_eq source destination wireLength]
    by_cases tooLong : 65535 < 20 + payload.length
    · rw [if_pos tooLong, if_pos (.inr tooLong)]
      rfl
    · rw [if_neg tooLong, if_neg (by omega)]
      by_cases zeroed : (header.drop 16).take 2 = [0, 0]
      · rw [if_neg (not_not_intro zeroed)]
        exact if_neg (not_not_intro zeroed)
      · rw [if_pos zeroed]
        exact if_pos zeroed
  · rw [computeChecksum, covered, Header.wireLength, if_pos wireLength, if_pos (.inl wireLength)]
    rfl

section Fits

variable {header payload : Bytes} (wireLength : header.length = 20)
  (fits : 20 + payload.length ≤ 65535)

include wireLength fits

theorem length_addressed (source destination : Ipv4Address) :
    (addressed source destination header payload).length ≤ Checksum.maxLength := by
  simp only [addressed, List.length_append, PseudoHeader.length_toBytes, wireLength,
    Checksum.maxLength]
  omega

/-- The checksums that verify: the computed one, and the other form of zero if that is zero. -/
theorem verifyChecksum_put (source destination : Ipv4Address) (stored : UInt16) :
    verifyChecksum source destination (Checksum.put header 16 stored) payload = .ok (decide (
      let checksum := Checksum.compute
        (addressed source destination (Checksum.put header 16 0) payload)
      stored = checksum ∨ (checksum = 0 ∧ stored = 0xFFFF))) := by
  have room : 16 + 2 ≤ header.length := by omega
  have stands (stored : UInt16) :
      addressed source destination (Checksum.put header 16 stored) payload =
        Checksum.put (addressed source destination header payload) 28 stored :=
    (Checksum.put_append _ header payload room stored).symm
  have within : 28 + 2 ≤ (addressed source destination header payload).length := by
    simp only [addressed, List.length_append, PseudoHeader.length_toBytes, wireLength]
    omega
  have exactly := Checksum.verify_put_iff
    (length_addressed wireLength fits source destination) rfl within stored
  rw [← stands, ← stands] at exactly
  rw [verifyChecksum_eq source destination ((Checksum.length_put room stored).trans wireLength),
    if_neg (Nat.not_lt.mpr fits)]
  exact congrArg Except.ok (Bool.eq_iff_iff.mpr (exactly.trans decide_eq_true_iff.symm))

end Fits

namespace Header

/-- What travels of the length of a header is its lower half, and that must be five. -/
theorem parse_toBytes_append_eq (header : Header) (rest : Bytes) :
    parse (header.toBytes ++ rest) =
      if header.dataOffset % 16 ≠ 5 then .error .invalidHeaderFormat
      else .ok { header with dataOffset := 5 } := by
  simp only [parse, toBytes, Bytes.ofWord16, Bytes.ofWord32, Checksum.store, List.cons_append,
    List.nil_append, Bytes.shiftLeft_four_div, Bytes.word16_of_ofWord16, Bytes.word32_of_ofWord32,
    Checksum.load_of_store, Flags.ofOctet_toOctet]
  by_cases five : header.dataOffset % 16 = 5
  · simp [five]
  · simp [five]

theorem parse_toBytes_append {header : Header} (dataOffset : header.dataOffset = 5)
    (rest : Bytes) : parse (header.toBytes ++ rest) = .ok header := by
  have five : ¬header.dataOffset % 16 ≠ 5 := by simp [dataOffset]
  rw [parse_toBytes_append_eq, if_neg five, ← dataOffset]

/-- The checksum stands at its offset, and nothing else depends on it. -/
theorem toBytes_withChecksum (header : Header) (checksum : UInt16) :
    { header with checksum := checksum }.toBytes =
      Checksum.put header.toBytes checksumOffset checksum :=
  rfl

/-- The header with the checksum that covers the addresses, the header and the payload. -/
def finished (header : Header) (source destination : Ipv4Address) (payload : Bytes) : Header :=
  { header with
    checksum := Checksum.compute
      ((⟨source, destination, (20 + payload.length).toUInt16⟩ : PseudoHeader).toBytes ++
        header.cleared.toBytes ++ payload) }

@[simp]
theorem dataOffset_finished (header : Header) (source destination : Ipv4Address)
    (payload : Bytes) :
    (header.finished source destination payload).dataOffset = header.dataOffset :=
  rfl

theorem computeChecksum_cleared (header : Header) (source destination : Ipv4Address)
    (payload : Bytes) :
    computeChecksum source destination header.cleared.toBytes payload =
      if 65535 < 20 + payload.length then .error .invalidLength
      else .ok (header.finished source destination payload).checksum := by
  have wireLength := header.cleared.length_toBytes
  have zeroed : (header.cleared.toBytes.drop 16).take 2 = [0, 0] :=
    @Checksum.take_two_drop_put header.toBytes 16 (by simp) 0
  simp only [computeChecksum_eq, wireLength, zeroed, ne_eq, not_true_eq_false, false_or, if_false]
  rfl

/-- Sealing finishes the header unless the segment is too long for the pseudo-header. -/
theorem sealFor_eq (header : Header) (source destination : Ipv4Address) (payload : Bytes) :
    header.sealFor source destination payload =
      if 65535 < 20 + payload.length then (.error .invalidLength, header.cleared)
      else (.ok (header.finished source destination payload).toBytes,
        header.finished source destination payload) := by
  rw [sealFor, computeChecksum_cleared]
  by_cases tooLong : 65535 < 20 + payload.length
  · rw [if_pos tooLong, if_pos tooLong]
  · rw [if_neg tooLong, if_neg tooLong]
    rfl

/-- The checksums that verify: the computed one, and the other form of zero if that is zero. -/
theorem verifyChecksum_iff (header : Header) (source destination : Ipv4Address) {payload : Bytes}
    (fits : 20 + payload.length ≤ 65535) (checksum : UInt16) :
    verifyChecksum source destination { header with checksum := checksum }.toBytes payload =
        .ok true ↔
      checksum = (header.finished source destination payload).checksum ∨
        ((header.finished source destination payload).checksum = 0 ∧ checksum = 65535) := by
  rw [toBytes_withChecksum, checksumOffset, verifyChecksum_put header.length_toBytes fits,
    Except.ok.injEq, decide_eq_true_iff]
  exact Iff.rfl

theorem verifyChecksum_finished (header : Header) (source destination : Ipv4Address)
    {payload : Bytes} (fits : 20 + payload.length ≤ 65535) :
    verifyChecksum source destination (header.finished source destination payload).toBytes
      payload = .ok true :=
  (header.verifyChecksum_iff source destination fits _).mpr (.inl rfl)

end Header

end VirtualNet.Tcp
