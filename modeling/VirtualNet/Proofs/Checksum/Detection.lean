import VirtualNet.Proofs.Checksum.Verification

/-!
# Changes that a checksum notices

A string that verifies is altered in two adjacent octets, whether or not they form one word of the
sum. The altered string verifies again only if both octets turn from one form of zero into the
other; and from all ones to zero only as long as some octet is left that is not zero, since a string
of zeros does not verify.
-/

namespace VirtualNet

namespace Checksum

theorem wordSum_eq_zero_iff (bytes : Bytes) : wordSum bytes = 0 ↔ ∀ octet ∈ bytes, octet = 0 := by
  have zero (octet : UInt8) : octet.toNat = 0 ↔ octet = 0 := by
    rw [← UInt8.toNat_inj]
    rfl
  fun_induction wordSum bytes with
  | case1 => simp
  | case2 last => simp [zero]
  | case3 low high rest ih =>
      have later : wordSum rest = 0 ↔ ∀ octet ∈ rest, octet = 0 := ih
      rw [List.forall_mem_cons, List.forall_mem_cons, ← later, ← zero, ← zero]
      omega

/-- A pair of all ones adds 65535 to the sum, wherever it stands. -/
theorem wordSum_append_ones (front back : Bytes) :
    wordSum (front ++ 255 :: 255 :: back) = 65535 + wordSum (front ++ 0 :: 0 :: back) := by
  have ones : (255 : UInt8).toNat = 255 := rfl
  rw [wordSum_append_pair, ones]
  rcases weight_cases front.length with ⟨weighs, weighs'⟩ | ⟨weighs, weighs'⟩
  · rw [weighs, weighs']
  · rw [weighs, weighs']

section

variable {front back : Bytes}

theorem length_append_pair (first second : UInt8) :
    (front ++ first :: second :: back).length = front.length + back.length + 2 := by
  simp
  omega

theorem verify_rising (short : (front ++ 0 :: 0 :: back).length ≤ maxLength)
    (right : verify (front ++ 0 :: 0 :: back) = true) :
    verify (front ++ 255 :: 255 :: back) = true := by
  have short' : (front ++ 255 :: 255 :: back).length ≤ maxLength := by
    rwa [length_append_pair] at short ⊢
  rw [verify_iff short] at right
  rw [verify_iff short', wordSum_append_ones]
  omega

theorem verify_falling_iff (short : (front ++ 255 :: 255 :: back).length ≤ maxLength)
    (right : verify (front ++ 255 :: 255 :: back) = true) :
    verify (front ++ 0 :: 0 :: back) = true ↔ ∃ octet ∈ front ++ 0 :: 0 :: back, octet ≠ 0 := by
  have short' : (front ++ 0 :: 0 :: back).length ≤ maxLength := by
    rwa [length_append_pair] at short ⊢
  rw [verify_iff short, wordSum_append_ones] at right
  have multiple : wordSum (front ++ 0 :: 0 :: back) % 65535 = 0 := by omega
  rw [verify_iff short', Ne, wordSum_eq_zero_iff]
  simp only [multiple, and_true, Classical.not_forall, exists_prop]

/-- Of a string that verifies, the pairs at an offset with which it still verifies. -/
theorem verify_pair_iff {first second first' second' : UInt8}
    (short : (front ++ first :: second :: back).length ≤ maxLength)
    (right : verify (front ++ first :: second :: back) = true) :
    verify (front ++ first' :: second' :: back) = true ↔
      (first' = first ∧ second' = second) ∨
      (first = 0 ∧ second = 0 ∧ first' = 255 ∧ second' = 255) ∨
      (first = 255 ∧ second = 255 ∧ first' = 0 ∧ second' = 0 ∧
        ∃ octet ∈ front ++ first' :: second' :: back, octet ≠ 0) := by
  constructor
  · intro again
    rcases eq_or_flipped_of_verify short right again with same | rising | falling
    · exact .inl same
    · exact .inr (.inl rising)
    · rcases falling with ⟨rfl, rfl, rfl, rfl⟩
      exact .inr (.inr ⟨rfl, rfl, rfl, rfl, (verify_falling_iff short right).mp again⟩)
  · rintro (⟨rfl, rfl⟩ | ⟨rfl, rfl, rfl, rfl⟩ | ⟨rfl, rfl, rfl, rfl, left⟩)
    · exact right
    · exact verify_rising short right
    · exact (verify_falling_iff short right).mpr left

end

/-- Two strings of one length that agree everywhere but at an offset and the next one. -/
structure AlteredAt (index : Nat) (bytes bytes' : Bytes) : Prop where
  sameLength : bytes'.length = bytes.length
  inside : index + 1 < bytes.length
  elsewhere : ∀ other, other ≠ index → other ≠ index + 1 → bytes'[other]? = bytes[other]?

namespace AlteredAt

variable {index : Nat} {bytes bytes' : Bytes}

theorem take_eq (altered : AlteredAt index bytes bytes') :
    bytes'.take index = bytes.take index := by
  apply List.ext_getElem?
  intro other
  by_cases before : other < index
  · simp only [List.getElem?_take_of_lt before]
    exact altered.elsewhere other (by omega) (by omega)
  · have behind : index ≤ other := Nat.le_of_not_lt before
    rw [List.getElem?_take_eq_none behind, List.getElem?_take_eq_none behind]

theorem drop_eq (altered : AlteredAt index bytes bytes') :
    bytes'.drop (index + 2) = bytes.drop (index + 2) := by
  apply List.ext_getElem?
  intro other
  simp only [List.getElem?_drop]
  exact altered.elsewhere _ (by omega) (by omega)

theorem split (altered : AlteredAt index bytes bytes') :
    ∃ front first second first' second' back, front.length = index ∧
      bytes = front ++ first :: second :: back ∧ bytes' = front ++ first' :: second' :: back := by
  have pair {octets : Bytes} (within : index + 1 < octets.length) :
      octets = octets.take index ++
        octets[index] :: octets[index + 1] :: octets.drop (index + 2) := by
    rw [List.getElem_cons_drop, List.getElem_cons_drop, List.take_append_drop]
  have frontLength : (bytes.take index).length = index := by
    have inside := altered.inside
    rw [List.length_take]
    omega
  have stands' := pair (altered.sameLength ▸ altered.inside)
  rw [altered.take_eq, altered.drop_eq] at stands'
  exact ⟨_, _, _, _, _, _, frontLength, pair altered.inside, stands'⟩

end AlteredAt

/--
A string that verifies still verifies after a change of two adjacent octets exactly if nothing was
changed, if both octets turned from zero to all ones, or if both turned from all ones to zero and
an octet is left that is not zero.
-/
theorem verifies_altered_exactly {index : Nat} {bytes bytes' : Bytes}
    (short : bytes.length ≤ maxLength) (right : verify bytes = true)
    (altered : AlteredAt index bytes bytes') :
    verify bytes' = true ↔
      bytes' = bytes ∨
      (bytes[index]? = some 0 ∧ bytes[index + 1]? = some 0 ∧
        bytes'[index]? = some 255 ∧ bytes'[index + 1]? = some 255) ∨
      (bytes[index]? = some 255 ∧ bytes[index + 1]? = some 255 ∧
        bytes'[index]? = some 0 ∧ bytes'[index + 1]? = some 0 ∧ ∃ octet ∈ bytes', octet ≠ 0) := by
  rcases altered.split with ⟨front, first, second, first', second', back, rfl, rfl, rfl⟩
  rw [verify_pair_iff short right]
  simp

/-- Pairs across two words fall from all ones to zero, until nothing but zeros is left. -/
theorem verifies_altered_across_words :
    let ones : Bytes := [0, 255, 255, 255, 255]
    let fewer : Bytes := [0, 0, 0, 255, 255]
    let zeros : Bytes := [0, 0, 0, 0, 0]
    ones.length ≤ maxLength ∧ verify ones = true ∧ AlteredAt 1 ones fewer ∧ verify fewer = true ∧
      AlteredAt 3 fewer zeros ∧ verify zeros = false := by
  intro ones fewer zeros
  have short : ones.length ≤ maxLength := by decide
  have right : verify ones = true := (verify_iff short).mpr (by decide)
  have altered : AlteredAt 1 ones fewer := ⟨rfl, by decide, by grind⟩
  have altered' : AlteredAt 3 fewer zeros := ⟨rfl, by decide, by grind⟩
  have again : verify fewer = true :=
    (verifies_altered_exactly short right altered).mpr (.inr (.inr (by decide)))
  have exactly := verifies_altered_exactly (by decide) again altered'
  refine ⟨short, right, altered, again, altered', ?_⟩
  rw [← Bool.not_eq_true, exactly]
  decide

end Checksum

end VirtualNet
