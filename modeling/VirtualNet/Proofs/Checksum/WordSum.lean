import VirtualNet.Checksum

/-!
# The checksum as a sum of words

This file relates the running 64-bit sum and its folding to plain arithmetic. `wordSum` adds the
words of a string without bound, and `residue` is what folding leaves of a sum: a representative
modulo 65535 that is zero for zero alone.

A string of at most `maxLength` octets cannot overflow the running sum. For such strings
`toNat_compute` gives the checksum and `verify_iff` says which strings verify.
-/

namespace VirtualNet

namespace Checksum

/-- The length up to which the words of a string cannot overflow the running sum: `2 ^ 49`. -/
def maxLength : Nat := 562949953421312

/-- The sum of the words of a string, as a number without bound. -/
def wordSum : Bytes → Nat
  | [] => 0
  | [last] => last.toNat
  | low :: high :: rest => low.toNat + 256 * high.toNat + wordSum rest

/--
What folding leaves of a sum: the representative modulo 65535 that is at most 65535 and zero for
zero alone.
-/
def residue (sum : Nat) : Nat :=
  if sum = 0 then 0 else (sum - 1) % 65535 + 1

theorem residue_of_lt {sum : Nat} (small : sum < 65536) : residue sum = sum := by
  unfold residue
  split <;> omega

theorem residue_le (sum : Nat) : residue sum ≤ 65535 := by
  unfold residue
  split <;> omega

theorem residue_carry (sum : Nat) : residue (sum % 65536 + sum / 65536) = residue sum := by
  unfold residue
  split <;> split <;> omega

theorem residue_eq_max_iff (sum : Nat) :
    residue sum = 65535 ↔ sum ≠ 0 ∧ sum % 65535 = 0 := by
  unfold residue
  split <;> omega

theorem toNat_word (low high : UInt8) : (word low high).toNat = low.toNat + 256 * high.toNat := by
  have lowBound := low.toNat_lt
  have highBound := high.toNat_lt
  simp [word, UInt64.toNat_add, UInt64.toNat_mul]
  omega

/-- Folding computes the residue. -/
theorem toNat_fold (sum : UInt64) : (fold sum).toNat = residue sum.toNat := by
  fun_induction fold sum with
  | case1 sum small =>
      exact (residue_of_lt (by simpa [UInt64.lt_iff_toNat_lt] using small)).symm
  | case2 sum large ih =>
      have bound := sum.toNat_lt
      have carried : (sum % 65536 + sum / 65536).toNat = sum.toNat % 65536 + sum.toNat / 65536 := by
        simp [UInt64.toNat_add]
        omega
      rw [ih, carried, residue_carry]

/-- As long as it has room, the running sum is the sum of the words. -/
theorem toNat_accumulate {sum : UInt64} {bytes : Bytes}
    (room : sum.toNat + wordSum bytes < UInt64.size) :
    (accumulate sum bytes).toNat = sum.toNat + wordSum bytes := by
  fun_induction accumulate sum bytes with
  | case1 sum => simp [wordSum]
  | case2 sum last =>
      simp only [wordSum] at room ⊢
      rw [UInt64.toNat_add, UInt8.toNat_toUInt64]
      exact Nat.mod_eq_of_lt room
  | case3 sum low high rest ih =>
      simp only [wordSum] at room ⊢
      have added : (sum + word low high).toNat = sum.toNat + (low.toNat + 256 * high.toNat) := by
        rw [UInt64.toNat_add, toNat_word]
        exact Nat.mod_eq_of_lt (Nat.lt_of_le_of_lt (by omega) room)
      rw [ih (by omega), added]
      omega

theorem wordSum_le (bytes : Bytes) : 2 * wordSum bytes ≤ 65535 * (bytes.length + 1) := by
  fun_induction wordSum bytes with
  | case1 => simp
  | case2 last =>
      have bound := last.toNat_lt
      simp
      omega
  | case3 low high rest ih =>
      have lowBound := low.toNat_lt
      have highBound := high.toNat_lt
      simp only [List.length_cons]
      omega

theorem wordSum_lt_of_short {bytes : Bytes} (short : bytes.length ≤ maxLength) :
    wordSum bytes < UInt64.size := by
  have bound := wordSum_le bytes
  simp only [maxLength] at short
  simp only [UInt64.size]
  omega

/-- The checksum of a string is the complement of the residue of its sum. -/
theorem toNat_compute {bytes : Bytes} (short : bytes.length ≤ maxLength) :
    (compute bytes).toNat = 65535 - residue (wordSum bytes) := by
  have residueBound := residue_le (wordSum bytes)
  have room : (0 : UInt64).toNat + wordSum bytes < UInt64.size := by
    simpa using wordSum_lt_of_short short
  unfold compute
  rw [UInt16.toNat_not, UInt64.toNat_toUInt16, toNat_fold, toNat_accumulate room]
  simp [UInt16.size]
  omega

/-- A string verifies if its sum is a multiple of 65535 other than zero. -/
theorem verify_iff {bytes : Bytes} (short : bytes.length ≤ maxLength) :
    verify bytes = true ↔ wordSum bytes ≠ 0 ∧ wordSum bytes % 65535 = 0 := by
  have residueBound := residue_le (wordSum bytes)
  have zero_iff : compute bytes = 0 ↔ (compute bytes).toNat = 0 := by
    rw [← UInt16.toNat_inj]
    simp
  rw [verify, beq_iff_eq, zero_iff, toNat_compute short, ← residue_eq_max_iff]
  omega

theorem compute_ne_max {bytes : Bytes} (short : bytes.length ≤ maxLength)
    (positive : 0 < wordSum bytes) : compute bytes ≠ 0xFFFF := by
  have complement := toNat_compute short
  have max : (0xFFFF : UInt16).toNat = 65535 := rfl
  rw [residue, if_neg (Nat.ne_of_gt positive)] at complement
  rw [Ne, ← UInt16.toNat_inj, complement, max]
  omega

/-- Strings whose sums are not zero have one checksum if the sums agree modulo 65535. -/
theorem compute_eq_iff {bytes bytes' : Bytes} (short : bytes.length ≤ maxLength)
    (short' : bytes'.length ≤ maxLength) (positive : 0 < wordSum bytes)
    (positive' : 0 < wordSum bytes') :
    compute bytes' = compute bytes ↔ wordSum bytes' % 65535 = wordSum bytes % 65535 := by
  have complement := toNat_compute short
  have complement' := toNat_compute short'
  rw [residue, if_neg (Nat.ne_of_gt positive)] at complement
  rw [residue, if_neg (Nat.ne_of_gt positive')] at complement'
  rw [← UInt16.toNat_inj, complement, complement']
  omega

/-- The sum of a string after a front of whole words. -/
theorem wordSum_append {front : Bytes} (even : front.length % 2 = 0) (back : Bytes) :
    wordSum (front ++ back) = wordSum front + wordSum back := by
  fun_induction wordSum front with
  | case1 => simp
  | case2 last => simp at even
  | case3 low high rest ih =>
      have evenRest : rest.length % 2 = 0 := by
        simp only [List.length_cons] at even
        omega
      simp only [List.cons_append, wordSum, ih evenRest, Nat.add_assoc]

/-! ### What an octet adds to a sum -/

/-- How much an octet at an offset counts in a sum. -/
def weight (offset : Nat) : Nat :=
  if offset % 2 = 0 then 1 else 256

/-- Of two adjacent offsets, one counts once and the other 256 times. -/
theorem weight_cases (offset : Nat) :
    (weight offset = 1 ∧ weight (offset + 1) = 256) ∨
      (weight offset = 256 ∧ weight (offset + 1) = 1) := by
  unfold weight
  split <;> split <;> omega

theorem weighted_pair_le (offset : Nat) (first second : UInt8) :
    weight offset * first.toNat + weight (offset + 1) * second.toNat ≤ 65535 := by
  have firstBound := first.toNat_lt
  have secondBound := second.toNat_lt
  rcases weight_cases offset with ⟨weighs, weighs'⟩ | ⟨weighs, weighs'⟩
  · rw [weighs, weighs']
    omega
  · rw [weighs, weighs']
    omega

/-- An octet counts by its weight, whatever stands around it. -/
theorem wordSum_append_cons (front back : Bytes) (octet : UInt8) :
    wordSum (front ++ octet :: back) =
      weight front.length * octet.toNat + wordSum (front ++ 0 :: back) := by
  fun_induction wordSum front with
  | case1 =>
      cases back with
      | nil => simp [wordSum, weight]
      | cons next rest =>
          simp [wordSum, weight]
          omega
  | case2 last => simp [wordSum, weight]; omega
  | case3 low high rest ih =>
      have sameParity : (rest.length + 1 + 1) % 2 = rest.length % 2 := by omega
      have sameWeight : weight (low :: high :: rest).length = weight rest.length := by
        simp [weight, sameParity]
      simp only [List.cons_append, wordSum]
      rw [ih, sameWeight]
      omega

/-- Two adjacent octets count by their weights. -/
theorem wordSum_append_pair (front back : Bytes) (first second : UInt8) :
    wordSum (front ++ first :: second :: back) =
      weight front.length * first.toNat + weight (front.length + 1) * second.toNat +
        wordSum (front ++ 0 :: 0 :: back) := by
  have regroup (octet : UInt8) :
      front ++ 0 :: octet :: back = (front ++ [0]) ++ octet :: back := by simp
  rw [wordSum_append_cons front (second :: back) first, regroup, wordSum_append_cons, regroup]
  simp
  omega

end Checksum

end VirtualNet
