import VirtualNet.Proofs.Checksum.WordSum

/-!
# What a verified string says of its octets

Two consequences of `Checksum.verify_iff`. A string with a word to spare at an even offset
verifies for exactly the checksum of the string with that word zero, up to the two forms of zero
(`verify_store_iff`, `verify_put_iff`). Of two strings that verify and differ in two adjacent octets
only, one turns both octets from 0 to 255 (`eq_or_flipped_of_verify`). A single octet that was
changed always shows in the sum (`octet_eq_of_wordSum_mod_eq`).
-/

namespace VirtualNet

namespace Checksum

/-- At an even offset a stored checksum adds its number to the sum. -/
theorem wordSum_append_store {front : Bytes} (even : front.length % 2 = 0) (back : Bytes)
    (checksum : UInt16) :
    wordSum (front ++ store checksum ++ back) =
      checksum.toNat + wordSum (front ++ store 0 ++ back) := by
  have bound := checksum.toNat_lt
  have odd : (front.length + 1) % 2 ≠ 0 := by omega
  have sum := wordSum_append_pair front back checksum.toUInt8 (checksum / 256).toUInt8
  rw [weight, if_pos even, weight, if_neg odd] at sum
  simp only [store, List.append_assoc, List.cons_append, List.nil_append]
  rw [sum]
  simp
  omega

/-- Exactly one checksum verifies, or two where the checksum is zero. -/
theorem verify_store_iff {front back : Bytes} (even : front.length % 2 = 0)
    (short : (front ++ store 0 ++ back).length ≤ maxLength) (checksum : UInt16) :
    verify (front ++ store checksum ++ back) = true ↔
      checksum = compute (front ++ store 0 ++ back) ∨
        (compute (front ++ store 0 ++ back) = 0 ∧ checksum = 65535) := by
  have bound := checksum.toNat_lt
  have sameLength :
      (front ++ store checksum ++ back).length = (front ++ store 0 ++ back).length := by simp
  rw [verify_iff (by omega), wordSum_append_store even, ← UInt16.toNat_inj, ← UInt16.toNat_inj,
    ← UInt16.toNat_inj, toNat_compute short]
  generalize wordSum (front ++ store 0 ++ back) = rest
  simp only [residue, UInt16.reduceToNat]
  split <;> omega

theorem length_put {bytes : Bytes} {offset : Nat} (fits : offset + 2 ≤ bytes.length)
    (checksum : UInt16) : (put bytes offset checksum).length = bytes.length := by
  simp only [put, List.length_append, List.length_take, length_store, List.length_drop]
  omega

theorem verify_put_iff {bytes : Bytes} {offset : Nat} (short : bytes.length ≤ maxLength)
    (even : offset % 2 = 0) (fits : offset + 2 ≤ bytes.length) (checksum : UInt16) :
    verify (put bytes offset checksum) = true ↔
      checksum = compute (put bytes offset 0) ∨
        (compute (put bytes offset 0) = 0 ∧ checksum = 65535) := by
  have front : (bytes.take offset).length = offset := List.length_take_of_le (by omega)
  have sameLength : (put bytes offset 0).length = bytes.length := length_put fits 0
  apply verify_store_iff
  · rw [front]
    exact even
  · exact sameLength ▸ short

theorem put_append (front bytes back : Bytes) {offset : Nat} (fits : offset + 2 ≤ bytes.length)
    (checksum : UInt16) :
    put (front ++ bytes ++ back) (front.length + offset) checksum =
      front ++ put bytes offset checksum ++ back := by
  rw [put, put, List.append_assoc front, List.take_length_add_append,
    List.take_append_of_le_length (by omega), Nat.add_assoc, List.drop_length_add_append,
    List.drop_append_of_le_length fits]
  simp only [List.append_assoc]

theorem take_two_drop_put {bytes : Bytes} {offset : Nat} (fits : offset + 2 ≤ bytes.length)
    (checksum : UInt16) : ((put bytes offset checksum).drop offset).take 2 = store checksum := by
  have front : (bytes.take offset).length = offset := List.length_take_of_le (by omega)
  rw [put, List.append_assoc, List.drop_left' front, List.take_left' (length_store _)]

/-- The two octets at an offset. -/
theorem take_two_drop_eq_iff {bytes : Bytes} {offset : Nat} {first second : UInt8} :
    (bytes.drop offset).take 2 = [first, second] ↔
      bytes[offset]? = some first ∧ bytes[offset + 1]? = some second := by
  have front : (bytes.drop offset)[0]? = bytes[offset]? := List.getElem?_drop
  have next : (bytes.drop offset)[1]? = bytes[offset + 1]? := List.getElem?_drop
  rw [← front, ← next]
  rcases bytes.drop offset with _ | ⟨octet, _ | ⟨octet', rest⟩⟩ <;> simp

/-- Storing a zero where there is one changes nothing. -/
theorem put_zero {bytes : Bytes} {offset : Nat} (zeroed : (bytes.drop offset).take 2 = [0, 0]) :
    put bytes offset 0 = bytes := by
  have stored : store 0 = [0, 0] := rfl
  rw [put, stored, ← zeroed, List.append_assoc, ← List.drop_drop, List.take_append_drop,
    List.take_append_drop]

/-- Both of two octets turn from one form of zero into the other. -/
def Flipped (first second first' second' : UInt8) : Prop :=
  (first = 0 ∧ second = 0 ∧ first' = 255 ∧ second' = 255) ∨
    (first = 255 ∧ second = 255 ∧ first' = 0 ∧ second' = 0)

theorem ne_of_flipped {first second first' second' : UInt8}
    (flipped : Flipped first second first' second') : first' ≠ first ∧ second' ≠ second := by
  rcases flipped with ⟨rfl, rfl, rfl, rfl⟩ | ⟨rfl, rfl, rfl, rfl⟩
  · decide
  · decide

/-- Two numbers of 16 bits that complete the same sum are equal, or are the two forms of zero. -/
theorem eq_or_extreme_of_mod_eq_zero {added added' rest : Nat} (bound : added ≤ 65535)
    (bound' : added' ≤ 65535) (before : (added + rest) % 65535 = 0)
    (after : (added' + rest) % 65535 = 0) :
    added' = added ∨ (added = 0 ∧ added' = 65535) ∨ (added = 65535 ∧ added' = 0) := by
  omega

/-- A change of two adjacent octets that still verifies is no change, or flips both of them. -/
theorem eq_or_flipped_of_verify {front back : Bytes} {first second first' second' : UInt8}
    (short : (front ++ first :: second :: back).length ≤ maxLength)
    (before : verify (front ++ first :: second :: back) = true)
    (after : verify (front ++ first' :: second' :: back) = true) :
    (first' = first ∧ second' = second) ∨ Flipped first second first' second' := by
  have sameLength : (front ++ first' :: second' :: back).length =
      (front ++ first :: second :: back).length := by simp
  rw [verify_iff short, wordSum_append_pair] at before
  rw [verify_iff (by omega), wordSum_append_pair] at after
  have sums := eq_or_extreme_of_mod_eq_zero (weighted_pair_le _ first second)
    (weighted_pair_le _ first' second') before.2 after.2
  have firstBound := first.toNat_lt
  have secondBound := second.toNat_lt
  have firstBound' := first'.toNat_lt
  have secondBound' := second'.toNat_lt
  simp only [Flipped, ← UInt8.toNat_inj, UInt8.reduceToNat]
  -- Whichever octet is the high one, the sum of the two tells them both.
  rcases weight_cases front.length with ⟨weighs, weighs'⟩ | ⟨weighs, weighs'⟩
  · rw [weighs, weighs'] at sums
    omega
  · rw [weighs, weighs'] at sums
    omega

/-- One octet of a string cannot change without changing the sum modulo 65535. -/
theorem octet_eq_of_wordSum_mod_eq {front back : Bytes} {octet octet' : UInt8}
    (same : wordSum (front ++ octet' :: back) % 65535 = wordSum (front ++ octet :: back) % 65535) :
    octet' = octet := by
  have bound := octet.toNat_lt
  have bound' := octet'.toNat_lt
  rw [wordSum_append_cons, wordSum_append_cons front back octet] at same
  rw [← UInt8.toNat_inj]
  rcases weight_cases front.length with ⟨weighs, -⟩ | ⟨weighs, -⟩
  · rw [weighs] at same
    omega
  · rw [weighs] at same
    omega

/-- A change of one octet does not verify. -/
theorem eq_of_verify {front back : Bytes} {octet octet' : UInt8}
    (short : (front ++ octet :: back).length ≤ maxLength)
    (before : verify (front ++ octet :: back) = true)
    (after : verify (front ++ octet' :: back) = true) : octet' = octet := by
  have sameLength :
      (front ++ octet' :: back).length = (front ++ octet :: back).length := by simp
  rw [verify_iff short] at before
  rw [verify_iff (by omega)] at after
  exact octet_eq_of_wordSum_mod_eq (after.2.trans before.2.symm)

end Checksum

end VirtualNet
