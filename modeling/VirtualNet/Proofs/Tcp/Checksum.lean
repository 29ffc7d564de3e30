import VirtualNet.Proofs.Checksum.WireOrder
import VirtualNet.Proofs.Tcp.Header

/-!
# The checksum of a segment

The checksum of a segment is computed over the addresses, an even number of octets, and over what
does not depend on them. The protocol number in it keeps the sum above zero, so the checksum is
never the form of zero that has all ones, and it depends on the sum modulo 65535 alone. Of the two
addresses it therefore tells the sum of their words and nothing else.
-/

namespace VirtualNet.Tcp

/-- What the checksum of a segment covers beside the addresses. -/
def unaddressed (header payload : Bytes) : Bytes :=
  [0, Ipv4.Protocol.tcp.number] ++ Bytes.ofWord16 (20 + payload.length).toUInt16 ++ header ++
    payload

theorem wordSum_addressed (source destination : Ipv4Address) (header payload : Bytes) :
    Checksum.wordSum (addressed source destination header payload) =
      Checksum.wordSum (source.octets ++ destination.octets) +
        Checksum.wordSum (unaddressed header payload) := by
  -- The addresses are whole words, so that the words behind them stay the same.
  have even : (source.octets ++ destination.octets).length % 2 = 0 := by simp
  rw [← Checksum.wordSum_append even]
  simp only [addressed, unaddressed, PseudoHeader.toBytes, List.append_assoc]

/-- The protocol number keeps the sum above zero. -/
theorem wordSum_unaddressed_pos (header payload : Bytes) :
    0 < Checksum.wordSum (unaddressed header payload) := by
  have protocol : Checksum.wordSum [0, Ipv4.Protocol.tcp.number] = 1536 := by decide
  rw [unaddressed, List.append_assoc, List.append_assoc, Checksum.wordSum_append rfl, protocol]
  omega

theorem wordSum_addressed_pos (source destination : Ipv4Address) (header payload : Bytes) :
    0 < Checksum.wordSum (addressed source destination header payload) := by
  have positive := wordSum_unaddressed_pos header payload
  rw [wordSum_addressed]
  omega

section Fits

variable {header payload : Bytes} (wireLength : header.length = 20)
  (fits : 20 + payload.length ≤ 65535)

include wireLength fits

theorem computed_ne_max (source destination : Ipv4Address) :
    Checksum.compute (addressed source destination header payload) ≠ 0xFFFF :=
  Checksum.compute_ne_max (length_addressed wireLength fits source destination)
    (wordSum_addressed_pos source destination header payload)

/-- Of the addresses, the checksum tells the sum of their words modulo 65535. -/
theorem computed_eq_iff (source destination source' destination' : Ipv4Address) :
    Checksum.compute (addressed source' destination' header payload) =
        Checksum.compute (addressed source destination header payload) ↔
      Checksum.wordSum (source'.octets ++ destination'.octets) % 65535 =
        Checksum.wordSum (source.octets ++ destination.octets) % 65535 := by
  rw [Checksum.compute_eq_iff (length_addressed wireLength fits source destination)
    (length_addressed wireLength fits source' destination')
    (wordSum_addressed_pos source destination header payload)
    (wordSum_addressed_pos source' destination' header payload),
    wordSum_addressed, wordSum_addressed]
  omega

end Fits

theorem wordSum_octets_swapped (source destination : Ipv4Address) :
    Checksum.wordSum (destination.octets ++ source.octets) =
      Checksum.wordSum (source.octets ++ destination.octets) := by
  have even (address : Ipv4Address) : address.octets.length % 2 = 0 := by simp
  rw [Checksum.wordSum_append (even destination), Checksum.wordSum_append (even source),
    Nat.add_comm]

/--
The checksum of a segment. A header of another length than twenty octets and a segment that is too
long for the pseudo-header are refused first, a header that already holds a checksum next, and
nothing else. The computed checksum is never all ones. Of all checksums that may be stored in its
place it alone verifies, with the other form of zero if it is zero. Other addresses have the same
checksum exactly if the sums of their words agree modulo 65535, in whichever order the octets of a
word are taken. So exchanged addresses have the same checksum, and addresses of which a single octet
was changed have another one.
-/
theorem checksum_unique (source destination : Ipv4Address) (header payload : Bytes) :
    if header.length ≠ 20 ∨ 65535 < 20 + payload.length then
      computeChecksum source destination header payload = .error .invalidLength
    else if ¬(header[16]? = some 0 ∧ header[17]? = some 0) then
      computeChecksum source destination header payload = .error .checksumNotZeroed
    else ∃ checksum,
      computeChecksum source destination header payload = .ok checksum ∧ checksum ≠ 0xFFFF ∧
      (∀ stored, verifyChecksum source destination (Checksum.put header 16 stored) payload =
        .ok (decide (stored = checksum ∨ (checksum = 0 ∧ stored = 0xFFFF)))) ∧
      (∀ source' destination' : Ipv4Address,
        computeChecksum source' destination' header payload = .ok checksum ↔
          Checksum.wordSum (source'.octets ++ destination'.octets) % 65535 =
            Checksum.wordSum (source.octets ++ destination.octets) % 65535) ∧
      (∀ source' destination' : Ipv4Address,
        computeChecksum source' destination' header payload = .ok checksum ↔
          Checksum.swappedSum (Checksum.words (source'.octets ++ destination'.octets)) % 65535 =
            Checksum.swappedSum (Checksum.words (source.octets ++ destination.octets)) % 65535) ∧
      computeChecksum destination source header payload = .ok checksum ∧
      ∀ (source' destination' : Ipv4Address) (front back : Bytes) (octet octet' : UInt8),
        source.octets ++ destination.octets = front ++ octet :: back →
        source'.octets ++ destination'.octets = front ++ octet' :: back → octet' ≠ octet →
        computeChecksum source' destination' header payload ≠ .ok checksum := by
  have computed (source destination : Ipv4Address) :=
    computeChecksum_eq source destination header payload
  by_cases refused : header.length ≠ 20 ∨ 65535 < 20 + payload.length
  · rw [if_pos refused, computed, if_pos refused]
  by_cases zeroed : header[16]? = some 0 ∧ header[17]? = some 0
  · have field : (header.drop 16).take 2 = [0, 0] := Checksum.take_two_drop_eq_iff.mpr zeroed
    simp only [if_neg refused, if_neg (not_not_intro zeroed), if_neg (not_not_intro field)]
      at computed ⊢
    have wireLength : header.length = 20 := by omega
    have fits : 20 + payload.length ≤ 65535 := by omega
    have exactly (source' destination' : Ipv4Address) :
        computeChecksum source' destination' header payload =
            .ok (Checksum.compute (addressed source destination header payload)) ↔
          Checksum.wordSum (source'.octets ++ destination'.octets) % 65535 =
            Checksum.wordSum (source.octets ++ destination.octets) % 65535 := by
      rw [computed, Except.ok.injEq]
      exact computed_eq_iff wireLength fits source destination source' destination'
    refine ⟨_, computed source destination, computed_ne_max wireLength fits source destination,
      ?_, exactly, ?_, ?_, ?_⟩
    · intro stored
      -- What is stored replaces a zero, and so the checksum was computed over the same octets.
      have verified := verifyChecksum_put wireLength fits source destination stored
      rwa [Checksum.put_zero field] at verified
    · intro source' destination'
      rw [exactly, Checksum.swappedSum_mod_eq_iff]
    · rw [exactly, wordSum_octets_swapped]
    · intro source' destination' front back octet octet' stands stands' changed same
      rw [exactly, stands, stands'] at same
      exact changed (Checksum.octet_eq_of_wordSum_mod_eq same)
  · have field : (header.drop 16).take 2 ≠ [0, 0] :=
      fun field => zeroed (Checksum.take_two_drop_eq_iff.mp field)
    rw [if_neg refused, if_pos zeroed, computed, if_neg refused, if_pos field]

/-- A segment whose checksum is zero, its addresses exchanged, and one of them another one. -/
theorem checksum_unique_at_zero :
    let source : Ipv4Address := ⟨192, 168, 0, 1⟩
    let destination : Ipv4Address := ⟨192, 168, 0, 2⟩
    let other : Ipv4Address := ⟨192, 168, 0, 3⟩
    let header : Bytes := [48, 57, 0, 80, 0, 0, 0, 0, 0, 0, 0, 0, 80, 0, 255, 255, 0, 0, 148, 155]
    let payload : Bytes := [72, 105, 33]
    computeChecksum source destination header payload = .ok 0 ∧
      verifyChecksum source destination header payload = .ok true ∧
      verifyChecksum source destination (Checksum.put header 16 0xFFFF) payload = .ok true ∧
      verifyChecksum source destination (Checksum.put header 16 1) payload = .ok false ∧
      computeChecksum destination source header payload = .ok 0 ∧
      computeChecksum source other header payload ≠ .ok 0 := by
  intro source destination other header payload
  have computed : computeChecksum source destination header payload = .ok 0 := by cbv
  have unique := checksum_unique source destination header payload
  rw [if_neg (by decide), if_neg (by decide)] at unique
  rcases unique with ⟨checksum, computed', -, verified, -, -, swapped, changed⟩
  cases computed.symm.trans computed'
  exact ⟨computed, verified 0, verified 0xFFFF, verified 1, swapped,
    changed source other [192, 168, 0, 1, 192, 168, 0] [] 2 3 rfl rfl (by decide)⟩

end VirtualNet.Tcp
