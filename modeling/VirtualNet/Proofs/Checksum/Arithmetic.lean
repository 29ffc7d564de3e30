import Mathlib.Algebra.BigOperators.Group.Finset.Basic
import Mathlib.Tactic.NormNum
import VirtualNet.Proofs.Checksum.WordSum

/-!
# The checksum in plain arithmetic

The two loops of the checksum are described as the machine runs them: `Adds` adds the words of a
string one by one and `Folds` takes the carries back in turn by turn, neither with an addition that
leaves the machine word. For a string of at most `maxLength` octets both loops come to their end,
and the checksum is a function of the sum of the words alone. So neither the order of the words nor
zeros at the end of the string make a difference.
-/

namespace VirtualNet

namespace Checksum

/-- Adding the words of a string to a running sum, every addition within the machine word. -/
inductive Adds : UInt64 → Bytes → UInt64 → Prop where
  | none {sum : UInt64} : Adds sum [] sum
  | last {sum : UInt64} {octet : UInt8} (fits : sum.toNat + octet.toNat < UInt64.size) :
      Adds sum [octet] (sum + octet.toUInt64)
  | word {sum total : UInt64} {low high : UInt8} {rest : Bytes}
      (fits : sum.toNat + (word low high).toNat < UInt64.size)
      (later : Adds (sum + word low high) rest total) : Adds sum (low :: high :: rest) total

/-- Taking the carries of a sum back in, in so many turns, within the machine word. -/
inductive Folds : Nat → UInt64 → UInt64 → Prop where
  | done {sum : UInt64} (small : sum < 65536) : Folds 0 sum sum
  | carry {turns : Nat} {sum folded : UInt64} (large : ¬sum < 65536)
      (fits : (sum % 65536).toNat + (sum / 65536).toNat < UInt64.size)
      (later : Folds turns (sum % 65536 + sum / 65536) folded) : Folds (turns + 1) sum folded

/-- The words of a string in order, the last one filled up with a zero. -/
def words : Bytes → List (UInt8 × UInt8)
  | [] => []
  | [last] => [(last, 0)]
  | low :: high :: rest => (low, high) :: words rest

theorem adds_accumulate {sum : UInt64} {bytes : Bytes}
    (room : sum.toNat + wordSum bytes < UInt64.size) : Adds sum bytes (accumulate sum bytes) := by
  fun_induction accumulate sum bytes with
  | case1 sum => exact .none
  | case2 sum last =>
      apply Adds.last
      simpa only [wordSum] using room
  | case3 sum low high rest ih =>
      simp only [wordSum] at room
      have fits : sum.toNat + (word low high).toNat < UInt64.size := by
        rw [toNat_word]
        omega
      apply Adds.word fits
      apply ih
      rw [UInt64.toNat_add, Nat.mod_eq_of_lt fits, toNat_word]
      omega

/-- Taking the carries back in brings a sum down by one power of `65536`. -/
theorem carried_le {sum power : Nat} (bound : sum ≤ power * 65536 + 65534) :
    sum % 65536 + sum / 65536 ≤ power + 65534 := by
  omega

theorem folds_fold_of_le {turns : Nat} {sum : UInt64}
    (bound : sum.toNat ≤ 65536 ^ turns + 65534) :
    ∃ taken ≤ turns, Folds taken sum (fold sum) := by
  induction turns generalizing sum with
  | zero =>
      have small : sum < 65536 := by
        apply UInt64.lt_iff_toNat_lt.2
        simp only [pow_zero] at bound
        exact Nat.lt_of_le_of_lt bound (by decide)
      refine ⟨0, Nat.le_refl 0, ?_⟩
      rw [fold, if_pos small]
      exact .done small
  | succ turns ih =>
      by_cases small : sum < 65536
      · refine ⟨0, Nat.zero_le _, ?_⟩
        rw [fold, if_pos small]
        exact .done small
      · have wordBound := sum.toNat_lt
        have low : (sum % 65536).toNat = sum.toNat % 65536 := by simp
        have high : (sum / 65536).toNat = sum.toNat / 65536 := by simp
        have fits : (sum % 65536).toNat + (sum / 65536).toNat < UInt64.size := by
          rw [low, high]
          simp only [UInt64.size]
          omega
        have smaller : (sum % 65536 + sum / 65536).toNat ≤ 65536 ^ turns + 65534 := by
          rw [UInt64.toNat_add, Nat.mod_eq_of_lt fits, low, high]
          exact carried_le (by rwa [pow_succ] at bound)
        rcases ih smaller with ⟨taken, few, folds⟩
        refine ⟨taken + 1, Nat.succ_le_succ few, ?_⟩
        rw [fold, if_neg small]
        exact .carry small fits folds

/-- Folding takes four turns at most. -/
theorem folds_fold (sum : UInt64) : ∃ turns ≤ 4, Folds turns sum (fold sum) := by
  apply folds_fold_of_le
  have bound := sum.toNat_lt
  norm_num
  omega

theorem wordSum_eq_sum (bytes : Bytes) :
    wordSum bytes = ∑ index ∈ Finset.range ((bytes.length + 1) / 2),
      ((bytes.getD (2 * index) 0).toNat + 256 * (bytes.getD (2 * index + 1) 0).toNat) := by
  fun_induction wordSum bytes with
  | case1 => simp
  | case2 last => simp
  | case3 low high rest ih =>
      have count : ((low :: high :: rest).length + 1) / 2 = (rest.length + 1) / 2 + 1 := by
        simp only [List.length_cons]
        omega
      have even (index : Nat) :
          (low :: high :: rest).getD (2 * (index + 1)) 0 = rest.getD (2 * index) 0 := rfl
      have odd (index : Nat) :
          (low :: high :: rest).getD (2 * (index + 1) + 1) 0 = rest.getD (2 * index + 1) 0 := rfl
      rw [count, Finset.sum_range_succ', ih]
      simp only [even, odd]
      exact Nat.add_comm _ _

theorem wordSum_eq_sum_words (bytes : Bytes) :
    wordSum bytes = ((words bytes).map fun pair => pair.1.toNat + 256 * pair.2.toNat).sum := by
  fun_induction words bytes with
  | case1 => rfl
  | case2 last => simp [wordSum]
  | case3 low high rest ih => simp [wordSum, ih]

theorem wordSum_append_zero (bytes : Bytes) : wordSum (bytes ++ [0]) = wordSum bytes := by
  fun_induction wordSum bytes with
  | case1 => rfl
  | case2 last => simp [wordSum]
  | case3 low high rest ih => simpa [wordSum] using ih

theorem wordSum_append_zeros (bytes : Bytes) (count : Nat) :
    wordSum (bytes ++ List.replicate count 0) = wordSum bytes := by
  induction count with
  | zero => simp
  | succ count ih =>
      rw [List.replicate_succ', ← List.append_assoc, wordSum_append_zero]
      exact ih

/-- Strings with the same sum have the same checksum, as long as the running sum has room for it. -/
theorem compute_congr {bytes bytes' : Bytes} (same : wordSum bytes' = wordSum bytes)
    (room : wordSum bytes < UInt64.size) : compute bytes' = compute bytes := by
  have accumulated : accumulate 0 bytes' = accumulate 0 bytes := by
    apply UInt64.toNat_inj.1
    rw [toNat_accumulate (by simpa [same] using room), toNat_accumulate (by simpa using room), same]
  rw [compute, compute, accumulated]

/--
The checksum of a string of at most `maxLength` octets, with no addition of it leaving the machine
word and its carries taken in within four turns: the complement of the representative modulo 65535
of the sum of the words that is zero for zero alone. The order of the words and zeros at the end do
not change it.
-/
theorem compute_eq_complement_of_sum {bytes : Bytes} (short : bytes.length ≤ maxLength) :
    let total := ∑ index ∈ Finset.range ((bytes.length + 1) / 2),
      ((bytes.getD (2 * index) 0).toNat + 256 * (bytes.getD (2 * index + 1) 0).toNat)
    Adds 0 bytes (accumulate 0 bytes) ∧ (accumulate 0 bytes).toNat = total ∧
      (∃ turns ≤ 4, Folds turns (accumulate 0 bytes) (fold (accumulate 0 bytes))) ∧
      (total = 0 → compute bytes = 0xFFFF) ∧
      (total ≠ 0 → (compute bytes).toNat = 0xFFFF - ((total - 1) % 65535 + 1)) ∧
      (∀ permuted, (words permuted).Perm (words bytes) → compute permuted = compute bytes) ∧
      ∀ count, compute (bytes ++ List.replicate count 0) = compute bytes := by
  intro total
  have sum : wordSum bytes = total := wordSum_eq_sum bytes
  have fits := wordSum_lt_of_short short
  have room : (0 : UInt64).toNat + wordSum bytes < UInt64.size := by simpa using fits
  have complement := toNat_compute short
  rw [sum, residue] at complement
  refine ⟨adds_accumulate room, ?_, folds_fold _, ?_, ?_, ?_, ?_⟩
  · rw [toNat_accumulate room, sum]
    simp
  · intro zero
    rw [if_pos zero] at complement
    exact UInt16.toNat_inj.1 complement
  · intro nonzero
    rw [if_neg nonzero] at complement
    exact complement
  · intro permuted permutes
    refine compute_congr ?_ fits
    rw [wordSum_eq_sum_words, wordSum_eq_sum_words]
    exact (permutes.map _).sum_eq
  · intro count
    exact compute_congr (wordSum_append_zeros bytes count) fits

/-- Two words and an odd octet whose sum carries over, and the same words in another order. -/
theorem compute_of_carries :
    ([255, 255, 1, 0, 1] : Bytes).length ≤ maxLength ∧
      (accumulate 0 [255, 255, 1, 0, 1]).toNat = 65537 ∧
      (compute [255, 255, 1, 0, 1]).toNat = 0xFFFF - ((65537 - 1) % 65535 + 1) ∧
      compute [1, 0, 255, 255, 1] = compute [255, 255, 1, 0, 1] ∧
      compute [255, 255, 1, 0, 1, 0, 0, 0] = compute [255, 255, 1, 0, 1] := by
  have short : ([255, 255, 1, 0, 1] : Bytes).length ≤ maxLength := by decide
  have total : ∑ index ∈ Finset.range 3,
      ((([255, 255, 1, 0, 1] : Bytes).getD (2 * index) 0).toNat +
        256 * (([255, 255, 1, 0, 1] : Bytes).getD (2 * index + 1) 0).toNat) = 65537 := by
    decide
  have swapped : (words [1, 0, 255, 255, 1]).Perm (words [255, 255, 1, 0, 1]) :=
    List.Perm.swap _ _ _
  rcases compute_eq_complement_of_sum short with ⟨-, sum, -, -, complement, permuted, padded⟩
  exact ⟨short, sum.trans total, total ▸ complement (total ▸ by decide), permuted _ swapped,
    padded 3⟩

end Checksum

end VirtualNet
