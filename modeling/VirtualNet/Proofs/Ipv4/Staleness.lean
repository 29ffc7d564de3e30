import VirtualNet.Proofs.Checksum.Detection
import VirtualNet.Proofs.Ipv4.Preparation

/-!
# Stale checksums

Setting a field of a header keeps its checksum, and whoever verifies it notices. A field that can be
set is one word of the sum, or one octet of a word, and the only change of a word that the sum does
not see turns both of its octets from zero to all ones, or back. The identification can be turned
like this. The total length is never zero, and the time to live and the protocol share a word, of
which no operation changes both octets.
-/

namespace VirtualNet

namespace Checksum

theorem verify_pair_iff_flipped {front back : Bytes} {first second first' second' : UInt8}
    (short : (front ++ first :: second :: back).length ≤ maxLength)
    (marked : ∃ octet ∈ front, octet ≠ 0)
    (right : verify (front ++ first :: second :: back) = true) :
    verify (front ++ first' :: second' :: back) = true ↔
      (first' = first ∧ second' = second) ∨ Flipped first second first' second' := by
  -- The sum tells zero from all ones only where every octet is zero, which `front` rules out.
  have left : ∃ octet ∈ front ++ first' :: second' :: back, octet ≠ 0 := by
    rcases marked with ⟨octet, inFront, nonzero⟩
    exact ⟨octet, List.mem_append_left _ inFront, nonzero⟩
  rw [verify_pair_iff short right]
  simp only [left, and_true, Flipped]

theorem flipped_ofWord16_iff (word word' : UInt16) :
    Flipped (word / 256).toUInt8 word.toUInt8 (word' / 256).toUInt8 word'.toUInt8 ↔
      (word = 0 ∧ word' = 0xFFFF) ∨ (word = 0xFFFF ∧ word' = 0) := by
  constructor
  · intro flipped
    rw [← Bytes.word16_of_ofWord16 word, ← Bytes.word16_of_ofWord16 word']
    rcases flipped with ⟨high, low, high', low'⟩ | ⟨high, low, high', low'⟩
    · left
      rw [high, low, high', low']
      decide
    · right
      rw [high, low, high', low']
      decide
  · rintro (⟨rfl, rfl⟩ | ⟨rfl, rfl⟩)
    · exact .inl (by decide)
    · exact .inr (by decide)

end Checksum

namespace Ipv4.Header

open Checksum (Flipped)

/-- Two headers that travel as the same octets but for a pair behind the first octet. -/
def PairReplaced (first second first' second' : UInt8) (header changed : Header) : Prop :=
  ∃ front back, header.toBytes = header.start :: front ++ first :: second :: back ∧
    changed.toBytes = header.start :: front ++ first' :: second' :: back

variable {header changed : Header}

theorem pairReplaced_totalLength (header : Header) (totalLength : UInt16) :
    PairReplaced (header.totalLength / 256).toUInt8 header.totalLength.toUInt8
      (totalLength / 256).toUInt8 totalLength.toUInt8
      header { header with totalLength := totalLength } :=
  ⟨[header.typeOfService], _, rfl, rfl⟩

theorem pairReplaced_identification (header : Header) (identification : UInt16) :
    PairReplaced (header.identification / 256).toUInt8 header.identification.toUInt8
      (identification / 256).toUInt8 identification.toUInt8
      header (header.withIdentification identification) :=
  ⟨header.typeOfService :: Bytes.ofWord16 header.totalLength, _, rfl, rfl⟩

theorem pairReplaced_timeToLive_protocol (header : Header) (timeToLive : UInt8)
    (protocol : Protocol) :
    PairReplaced header.timeToLive header.protocol.number timeToLive protocol.number
      header { header with timeToLive := timeToLive, protocol := protocol } :=
  ⟨header.typeOfService :: (Bytes.ofWord16 header.totalLength ++
    Bytes.ofWord16 header.identification ++ Bytes.ofWord16 header.flagsAndOffset), _, rfl, rfl⟩

theorem verifyChecksum_iff_of_pairReplaced {first second first' second' : UInt8}
    (regular : header.Regular) (right : header.verifyChecksum = true)
    (replaced : PairReplaced first second first' second' header changed) :
    changed.verifyChecksum = true ↔
      changed.toBytes = header.toBytes ∨ Flipped first second first' second' := by
  rcases replaced with ⟨front, back, stands, stands'⟩
  have start := start_eq regular.version regular.headerWords
  have marked : ∃ octet ∈ header.start :: front, octet ≠ 0 :=
    ⟨header.start, List.mem_cons_self, by simp [start]⟩
  have short : (header.start :: front ++ first :: second :: back).length ≤ Checksum.maxLength := by
    rw [← stands, length_toBytes]
    decide
  rw [verifyChecksum, stands] at right
  rw [verifyChecksum, stands', stands, Checksum.verify_pair_iff_flipped short marked right]
  simp

theorem verifyChecksum_withTimeToLive_iff (regular : header.Regular)
    (right : header.verifyChecksum = true) (timeToLive : UInt8) :
    (header.withTimeToLive timeToLive).verifyChecksum = true ↔
      (header.withTimeToLive timeToLive).toBytes = header.toBytes := by
  have replaced := header.pairReplaced_timeToLive_protocol timeToLive header.protocol
  -- The other octet of the word stays, and a turned word changes both.
  have unflipped : ¬Flipped header.timeToLive header.protocol.number timeToLive
      header.protocol.number := by
    intro flipped
    exact (Checksum.ne_of_flipped flipped).2 rfl
  exact (verifyChecksum_iff_of_pairReplaced regular right replaced).trans (or_iff_left unflipped)

theorem verifyChecksum_withProtocol_iff (regular : header.Regular)
    (right : header.verifyChecksum = true) (protocol : Protocol) :
    (header.withProtocol protocol).verifyChecksum = true ↔
      (header.withProtocol protocol).toBytes = header.toBytes := by
  have replaced := header.pairReplaced_timeToLive_protocol header.timeToLive protocol
  have unflipped : ¬Flipped header.timeToLive header.protocol.number header.timeToLive
      protocol.number := by
    intro flipped
    exact (Checksum.ne_of_flipped flipped).1 rfl
  exact (verifyChecksum_iff_of_pairReplaced regular right replaced).trans (or_iff_left unflipped)

theorem verifyChecksum_withTotalLength_iff (regular : header.Regular)
    (right : header.verifyChecksum = true) {totalLength : UInt16}
    (covers : 20 ≤ totalLength.toNat) :
    ({ header with totalLength := totalLength } : Header).verifyChecksum = true ↔
      ({ header with totalLength := totalLength } : Header).toBytes = header.toBytes := by
  have replaced := header.pairReplaced_totalLength totalLength
  have covers' := regular.covers
  -- Neither length is zero, since both cover the header.
  have unflipped : ¬Flipped (header.totalLength / 256).toUInt8 header.totalLength.toUInt8
      (totalLength / 256).toUInt8 totalLength.toUInt8 := by
    rw [Checksum.flipped_ofWord16_iff]
    rintro (⟨zero, -⟩ | ⟨-, zero⟩)
    · simp [zero] at covers'
    · simp [zero] at covers
  exact (verifyChecksum_iff_of_pairReplaced regular right replaced).trans (or_iff_left unflipped)

theorem verifyChecksum_withIdentification_iff (regular : header.Regular)
    (right : header.verifyChecksum = true) (identification : UInt16) :
    (header.withIdentification identification).verifyChecksum = true ↔
      (header.withIdentification identification).toBytes = header.toBytes ∨
        (header.identification = 0 ∧ identification = 0xFFFF) ∨
        (header.identification = 0xFFFF ∧ identification = 0) := by
  rw [← Checksum.flipped_ofWord16_iff]
  exact verifyChecksum_iff_of_pairReplaced regular right
    (header.pairReplaced_identification identification)

theorem toBytes_eq_of_parse_append {read : Header} {pad : Bytes}
    (parsed : parse (header.toBytes ++ pad) = .ok read) : read.toBytes = header.toBytes := by
  rcases toBytes_of_parse parsed with ⟨rest, written⟩
  exact (List.append_inj_left written (by simp)).symm

end Ipv4.Header

namespace Ipv4.Operation

open Header

theorem withTotalLength_of_setPayloadLength {length mtu : Nat} {header changed : Header}
    (performed : (setPayloadLength length mtu).outcome header = (.ok (), changed)) :
    ∃ totalLength : UInt16, 20 ≤ totalLength.toNat ∧
      changed = { header with totalLength := totalLength } := by
  by_cases inRange : 20 + length < UInt64.size
  · rw [outcome_setPayloadLength inRange] at performed
    by_cases fits : 20 + length ≤ min mtu 65535
    · rw [if_pos fits] at performed
      cases performed
      refine ⟨_, ?_, rfl⟩
      rw [toNat_totalLength_of_fits fits]
      omega
    · rw [if_neg fits] at performed
      cases performed
  · have overflows : UInt64.size ≤ wireLength + length := Nat.le_of_not_lt inRange
    simp only [outcome, perform, run_setPayloadLength, withPayloadLength, if_pos overflows]
      at performed
    cases performed

theorem toBytes_eq_of_reread {header changed : Header} {pad : Bytes}
    (performed : (reread pad).outcome header = (.ok (), changed)) :
    changed.toBytes = header.toBytes := by
  rw [outcome_reread] at performed
  cases parsed : parse (header.toBytes ++ pad) with
  | error error =>
      rw [parsed] at performed
      cases performed
  | ok read =>
      rw [parsed] at performed
      cases performed
      exact toBytes_eq_of_parse_append parsed

/--
After an operation on a sealed header, its checksum verifies exactly if the header still travels as
the same octets, or if its identification was turned from zero to all ones or back. The header
verifies again when it is sealed again.
-/
theorem leaves_no_stale_checksum_unnoticed {operation : Operation} {header changed : Header}
    (regular : header.Regular) (performed : operation.outcome header.sealed = (.ok (), changed)) :
    (changed.verifyChecksum = true ↔ changed.toBytes = header.sealed.toBytes ∨
      ∃ identification, operation = .setIdentification identification ∧
        ((header.identification = 0 ∧ identification = 0xFFFF) ∨
          (header.identification = 0xFFFF ∧ identification = 0))) ∧
    changed.sealed.verifyChecksum = true := by
  refine ⟨?_, changed.verifyChecksum_sealed⟩
  have regular' := regular.sealed
  have right := header.verifyChecksum_sealed
  cases operation with
  | setTimeToLive timeToLive =>
      cases performed
      simpa using verifyChecksum_withTimeToLive_iff regular' right timeToLive
  | setIdentification identification =>
      cases performed
      have same : header.sealed.identification = header.identification := rfl
      simpa [same] using verifyChecksum_withIdentification_iff regular' right identification
  | setProtocol protocol =>
      cases performed
      simpa using verifyChecksum_withProtocol_iff regular' right protocol
  | setPayloadLength length mtu =>
      rcases withTotalLength_of_setPayloadLength performed with ⟨totalLength, covers, rfl⟩
      simpa using verifyChecksum_withTotalLength_iff regular' right covers
  | fillChecksum =>
      rw [outcome_fillChecksum] at performed
      have same : header.sealed = changed := congrArg Prod.snd performed
      subst changed
      exact iff_of_true right (.inl rfl)
  | reread pad =>
      have same := toBytes_eq_of_reread performed
      have right' : changed.verifyChecksum = true := by
        rw [verifyChecksum, same]
        exact right
      exact iff_of_true right' (.inl same)

/-- A turned identification keeps the checksum right, another time to live does not. -/
theorem leaves_turned_identification_unnoticed :
    let header : Header := .create .tcp ⟨192, 168, 0, 1⟩ ⟨192, 168, 0, 2⟩
    let turned := header.sealed.withIdentification 0xFFFF
    let delayed := header.sealed.withTimeToLive 64
    header.Regular ∧
      (setIdentification 0xFFFF).outcome header.sealed = (.ok (), turned) ∧
      turned.toBytes ≠ header.sealed.toBytes ∧ turned.verifyChecksum = true ∧
      (setTimeToLive 64).outcome header.sealed = (.ok (), delayed) ∧
      delayed.verifyChecksum = false ∧ delayed.sealed.verifyChecksum = true := by
  intro header turned delayed
  have regular : header.Regular := ⟨rfl, rfl, Nat.le_refl 20⟩
  have performed : (setIdentification 0xFFFF).outcome header.sealed = (.ok (), turned) := rfl
  have performed' : (setTimeToLive 64).outcome header.sealed = (.ok (), delayed) := rfl
  have other : turned.toBytes ≠ header.sealed.toBytes := by
    intro same
    exact absurd (congrArg (·.getD 4 0) same) (by decide)
  have other' : delayed.toBytes ≠ header.sealed.toBytes := by
    intro same
    exact absurd (congrArg (·.getD 8 0) same) (by decide)
  have unnoticed := (leaves_no_stale_checksum_unnoticed regular performed).1
  rcases leaves_no_stale_checksum_unnoticed regular performed' with ⟨noticed, again⟩
  refine ⟨regular, performed, other, unnoticed.mpr (.inr ⟨0xFFFF, rfl, .inl ⟨rfl, rfl⟩⟩),
    performed', ?_, again⟩
  rw [← Bool.not_eq_true, noticed]
  rintro (same | ⟨identification, impossible, -⟩)
  · exact other' same
  · cases impossible

end Ipv4.Operation

end VirtualNet
