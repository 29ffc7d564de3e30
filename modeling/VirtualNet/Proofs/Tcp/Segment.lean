import VirtualNet.Proofs.Tcp.Header
import VirtualNet.Tcp.Segment

/-!
# The views of a TCP segment

A segment is validated by its length, sealed, asked for its checksum, and verified with the checksum
that it holds. These views come to the pseudo-header by different ways and agree: each is told by
whether the segment fits the pseudo-header, and by the checksum that its header is finished with.
-/

namespace VirtualNet.Tcp.Segment

/-- The segment with another checksum in its header. -/
def holding (segment : Segment) (checksum : UInt16) : Segment :=
  { segment with header := { segment.header with checksum := checksum } }

/-- The checksum that the header of the segment is finished with. -/
def fresh (segment : Segment) : UInt16 :=
  (segment.header.finished segment.source segment.destination segment.payload).checksum

/-- Sealing does not depend on the checksum that the segment held. -/
theorem sealed_holding (segment : Segment) (checksum : UInt16) :
    (segment.holding checksum).sealed = segment.sealed :=
  rfl

theorem computeChecksum_holding (segment : Segment) (checksum : UInt16) :
    (segment.holding checksum).computeChecksum = segment.computeChecksum :=
  rfl

theorem length_build (segment : Segment) : segment.build.length = 20 + segment.payload.length := by
  simp [build]

theorem length_eq {segment : Segment} (dataOffset : segment.header.dataOffset = 5) :
    segment.length = 20 + segment.payload.length := by
  simp [length, Header.headerLength, dataOffset]

theorem validate_eq {segment : Segment} (dataOffset : segment.header.dataOffset = 5) :
    segment.validate =
      if 65535 < 20 + segment.payload.length then .error .invalidLength else .ok () := by
  rw [validate, length_eq dataOffset]

theorem sealed_eq (segment : Segment) :
    segment.sealed =
      if 65535 < 20 + segment.payload.length then (.error .invalidLength, segment.holding 0)
      else (.ok (segment.holding segment.fresh).build, segment.holding segment.fresh) := by
  rw [sealed, Header.sealFor_eq]
  by_cases tooLong : 65535 < 20 + segment.payload.length
  · simp only [if_pos tooLong]
    rfl
  · simp only [if_neg tooLong]
    rfl

theorem computeChecksum_eq {segment : Segment} (dataOffset : segment.header.dataOffset = 5) :
    segment.computeChecksum = if 65535 < 20 + segment.payload.length then 0 else segment.fresh := by
  rw [computeChecksum, validate_eq dataOffset, Header.sealFor_eq]
  by_cases tooLong : 65535 < 20 + segment.payload.length
  · simp only [if_pos tooLong]
  · simp only [if_neg tooLong]
    rfl

theorem verifyChecksum_eq_true_iff (segment : Segment) :
    segment.verifyChecksum = true ↔
      Tcp.verifyChecksum segment.source segment.destination segment.header.toBytes
        segment.payload = .ok true := by
  rw [verifyChecksum]
  split
  · simp [*]
  · simp [*]

theorem verifyChecksum_eq (segment : Segment) :
    segment.verifyChecksum =
      if 65535 < 20 + segment.payload.length then false
      else Checksum.verify
        ((⟨segment.source, segment.destination, (20 + segment.payload.length).toUInt16⟩ :
          PseudoHeader).toBytes ++ segment.header.toBytes ++ segment.payload) := by
  rw [verifyChecksum, Tcp.verifyChecksum_eq _ _ (Header.length_toBytes _)]
  by_cases tooLong : 65535 < 20 + segment.payload.length
  · simp only [if_pos tooLong]
  · simp only [if_neg tooLong]

theorem verifyChecksum_holding_iff {segment : Segment}
    (fits : 20 + segment.payload.length ≤ 65535) (checksum : UInt16) :
    (segment.holding checksum).verifyChecksum = true ↔
      checksum = segment.fresh ∨ (segment.fresh = 0 ∧ checksum = 65535) := by
  rw [verifyChecksum_eq_true_iff]
  exact segment.header.verifyChecksum_iff segment.source segment.destination fits checksum

/--
The views of a segment agree. One that fits the pseudo-header is valid and sealed to the octets that
it is written with from then on, by its checksum alone, which is the one computed before and after
and makes it verify; no other checksum verifies, up to the two forms of zero. One that does not fit
is refused, and sealing leaves zero in its checksum field.
-/
theorem views_agree {segment : Segment} (dataOffset : segment.header.dataOffset = 5) :
    let after := segment.sealed.2
    (segment.validate = .ok () ↔ segment.payload.length ≤ 65515) ∧
      ((∃ bytes, segment.sealed.1 = .ok bytes) ↔ segment.payload.length ≤ 65515) ∧
      segment.length = segment.build.length ∧ segment.length = 20 + segment.payload.length ∧
      if segment.payload.length ≤ 65515 then
        segment.sealed = (.ok after.build, segment.holding segment.computeChecksum) ∧
          after.computeChecksum = segment.computeChecksum ∧ after.verifyChecksum = true ∧
          after.sealed = (.ok after.build, after) ∧
          ∀ checksum, (segment.holding checksum).verifyChecksum = true ↔
            checksum = segment.computeChecksum ∨
              (segment.computeChecksum = 0 ∧ checksum = 0xFFFF)
      else
        segment.sealed = (.error .invalidLength, segment.holding 0) ∧
          segment.computeChecksum = 0 ∧ segment.verifyChecksum = false := by
  intro after
  have valid := validate_eq dataOffset
  have length := length_eq dataOffset
  have finished := sealed_eq segment
  have computed := computeChecksum_eq dataOffset
  by_cases fits : segment.payload.length ≤ 65515
  · have notTooLong : ¬65535 < 20 + segment.payload.length := by omega
    rw [if_neg notTooLong] at valid finished computed
    have verified := @verifyChecksum_holding_iff segment (by omega)
    have left : after = segment.holding segment.fresh := congrArg Prod.snd finished
    refine ⟨by simp [valid, fits], by simp [finished, fits], ?_, length, ?_⟩
    · rw [length, length_build]
    · rw [if_pos fits, computed, left, computeChecksum_holding, sealed_holding]
      exact ⟨finished, computed, (verified segment.fresh).mpr (.inl rfl), finished, verified⟩
  · have tooLong : 65535 < 20 + segment.payload.length := by omega
    rw [if_pos tooLong] at valid finished computed
    refine ⟨by simp [valid, fits], by simp [finished, fits], ?_, length, ?_⟩
    · rw [length, length_build]
    · rw [if_neg fits]
      exact ⟨finished, computed, (verifyChecksum_eq segment).trans (if_pos tooLong)⟩

/-- A computed checksum of zero is no sign of failure: the segment verifies with either zero. -/
theorem views_agree_at_zero :
    let segment : Segment := ⟨⟨12345, 80, 0, 0, 5, .none, 65535, 1, 38043⟩, ⟨192, 168, 0, 1⟩,
      ⟨192, 168, 0, 2⟩, [72, 105, 33]⟩
    segment.header.dataOffset = 5 ∧ segment.computeChecksum = 0 ∧ segment.validate = .ok () ∧
      segment.sealed = (.ok (segment.holding 0).build, segment.holding 0) ∧
      (segment.holding 0).verifyChecksum = true ∧ (segment.holding 0xFFFF).verifyChecksum = true ∧
      ¬segment.verifyChecksum = true := by
  intro segment
  have computed : segment.computeChecksum = 0 := by cbv
  have fits : segment.payload.length ≤ 65515 := by decide
  rcases @views_agree segment rfl with ⟨valid, -, -, -, views⟩
  rw [if_pos fits, computed] at views
  rcases views with ⟨finished, -, -, -, verified⟩
  have left : segment.sealed.2 = segment.holding 0 := congrArg Prod.snd finished
  rw [left] at finished
  exact ⟨rfl, computed, valid.mpr fits, finished, (verified 0).mpr (.inl rfl),
    (verified 0xFFFF).mpr (.inr ⟨rfl, rfl⟩), fun right => by simpa using (verified 1).mp right⟩

end VirtualNet.Tcp.Segment
