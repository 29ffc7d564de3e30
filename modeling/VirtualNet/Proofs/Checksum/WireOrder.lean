import VirtualNet.Proofs.Checksum.Arithmetic
import VirtualNet.Proofs.Checksum.Verification

/-!
# The checksum in wire order

On the wire a checksum is described with its words taken most significant octet first, added with
an end-around carry, and the complement of the sum stored most significant octet first
(`wireChecksum`). `compute` and `store` take both the other way round, and the octets that they
leave are the same ones.

The reason is that 256 times 256 is 1 modulo 65535. So 256 times the sum of the words in one order
is the sum in the other order (`sum_swapped`), and multiplying the residue of a sum by 256 swaps its
two octets (`residue_swapped`). A sum is zero in one order exactly if it is zero in the other, so
the two forms of zero are not mixed up.
-/

namespace VirtualNet

namespace Checksum

/-- One's-complement addition: a carry out of the word comes in again at its low end. -/
def addAround (left right : UInt16) : UInt16 :=
  if left + right < left then left + right + 1 else left + right

/--
The checksum as the wire has it: the complement of the end-around-carry sum of the words, most
significant octet first. A last single octet is the high one of its word.
-/
def wireChecksum (bytes : Bytes) : UInt16 :=
  ~~~((words bytes).map fun pair => Bytes.word16 pair.1 pair.2).foldl addAround 0

theorem residue_of_carry {sum : Nat} (carry : 65536 ≤ sum) (bound : sum ≤ 131070) :
    residue sum = sum - 65535 := by
  unfold residue
  split <;> omega

theorem toNat_addAround (left right : UInt16) :
    (addAround left right).toNat = residue (left.toNat + right.toNat) := by
  have leftBound := left.toNat_lt
  have rightBound := right.toNat_lt
  have added : (left + right).toNat = (left.toNat + right.toNat) % 65536 := UInt16.toNat_add _ _
  simp only [addAround, UInt16.lt_iff_toNat_lt, added]
  by_cases carry : 65536 ≤ left.toNat + right.toNat
  · have one : (1 : UInt16).toNat = 1 := rfl
    rw [residue_of_carry carry (by omega), if_pos (by omega), UInt16.toNat_add, added, one]
    omega
  · rw [residue_of_lt (Nat.lt_of_not_le carry), if_neg (by omega), added]
    omega

theorem residue_residue_add (sum added : Nat) :
    residue (residue sum + added) = residue (sum + added) := by
  unfold residue
  split <;> split <;> split <;> omega

theorem toNat_foldl_addAround (start : UInt16) (numbers : List UInt16) :
    (numbers.foldl addAround start).toNat =
      residue (start.toNat + (numbers.map UInt16.toNat).sum) := by
  induction numbers generalizing start with
  | nil => simpa using (residue_of_lt start.toNat_lt).symm
  | cons number rest ih =>
      rw [List.foldl_cons, ih, toNat_addAround, residue_residue_add, List.map_cons, List.sum_cons,
        Nat.add_assoc]

/-- The sum of words with the first octet of each as the high one. -/
def swappedSum (pairs : List (UInt8 × UInt8)) : Nat :=
  (pairs.map fun pair => 256 * pair.1.toNat + pair.2.toNat).sum

theorem toNat_wireChecksum (bytes : Bytes) :
    (wireChecksum bytes).toNat = 65535 - residue (swappedSum (words bytes)) := by
  have numbers : ((words bytes).map fun pair => Bytes.word16 pair.1 pair.2).map UInt16.toNat =
      (words bytes).map fun pair => 256 * pair.1.toNat + pair.2.toNat := by
    rw [List.map_map]
    apply List.map_congr_left
    intro pair _
    exact Bytes.toNat_word16 pair.1 pair.2
  rw [wireChecksum, UInt16.toNat_not, toNat_foldl_addAround, numbers, swappedSum]
  simp [UInt16.size]

theorem sum_swapped (pairs : List (UInt8 × UInt8)) :
    let sum := (pairs.map fun pair => pair.1.toNat + 256 * pair.2.toNat).sum
    256 * sum = swappedSum pairs + 65535 * (pairs.map fun pair => pair.2.toNat).sum ∧
      sum ≤ 256 * swappedSum pairs := by
  induction pairs with
  | nil => exact ⟨rfl, Nat.le_refl 0⟩
  | cons pair rest ih =>
      -- 256 times the high octet's 256 is the octet itself and 65535 more of it.
      simp only [swappedSum, List.map_cons, List.sum_cons] at ih ⊢
      omega

/-- The sums of two strings agree modulo 65535 in both orders of the octets or in neither. -/
theorem swappedSum_mod_eq_iff (bytes bytes' : Bytes) :
    swappedSum (words bytes') % 65535 = swappedSum (words bytes) % 65535 ↔
      wordSum bytes' % 65535 = wordSum bytes % 65535 := by
  have times := (sum_swapped (words bytes)).1
  have times' := (sum_swapped (words bytes')).1
  rw [← wordSum_eq_sum_words] at times times'
  omega

/-- Multiplying a sum by 256 swaps the octets of its residue. -/
theorem residue_swapped {sum swapped multiple : Nat}
    (times : 256 * sum = swapped + 65535 * multiple) (zero : sum ≤ 256 * swapped) :
    residue swapped = 256 * (residue sum % 256) + residue sum / 256 := by
  unfold residue
  split <;> split <;> omega

theorem complement_octets {number high low : Nat} (split : number = 256 * high + low)
    (highBound : high ≤ 255) (lowBound : low ≤ 255) :
    (65535 - number) / 256 % 256 = 255 - high ∧ (65535 - number) % 256 = 255 - low := by
  omega

theorem store_compute {bytes : Bytes} (short : bytes.length ≤ maxLength) :
    store (compute bytes) = Bytes.ofWord16 (wireChecksum bytes) := by
  have residueBound := residue_le (wordSum bytes)
  have stored := toNat_compute short
  have wired := toNat_wireChecksum bytes
  rcases sum_swapped (words bytes) with ⟨times, zero⟩
  rw [← wordSum_eq_sum_words] at times zero
  rw [residue_swapped times zero] at wired
  generalize residue (wordSum bytes) = number at residueBound stored wired
  have highBound : number / 256 ≤ 255 := by omega
  have lowBound : number % 256 ≤ 255 := by omega
  have storedOctets := complement_octets (Nat.div_add_mod number 256).symm highBound lowBound
  have wiredOctets := complement_octets (rfl : 256 * (number % 256) + number / 256 = _)
    lowBound highBound
  simp only [store, Bytes.ofWord16, List.cons.injEq, ← UInt8.toNat_inj, UInt16.toNat_toUInt8,
    UInt16.toNat_div, stored, wired, UInt16.reduceToNat, and_true]
  exact ⟨storedOctets.2.trans wiredOctets.1.symm, storedOctets.1.trans wiredOctets.2.symm⟩

/--
The two octets that storing the checksum of a string leaves at an offset are those of the wire's
checksum, most significant octet first.
-/
theorem put_compute_in_wire_order {bytes buffer : Bytes} {offset : Nat}
    (short : bytes.length ≤ maxLength) (fits : offset + 2 ≤ buffer.length) :
    ((put buffer offset (compute bytes)).drop offset).take 2 =
      Bytes.ofWord16 (wireChecksum bytes) := by
  rw [take_two_drop_put fits, store_compute short]

/-- An IPv4 header with its checksum field empty, and a string of odd length with carries. -/
theorem put_compute_of_header_in_wire_order :
    let header : Bytes :=
      [0x45, 0, 0, 0x73, 0, 0, 0x40, 0, 0x40, 0x11, 0, 0, 0xc0, 0xa8, 0, 1, 0xc0, 0xa8, 0, 0xc7]
    let odd : Bytes := [0xff, 0xff, 1, 0, 1]
    (header.length ≤ maxLength ∧ 10 + 2 ≤ header.length ∧
        ((put header 10 (compute header)).drop 10).take 2 = [0xb8, 0x61]) ∧
      odd.length ≤ maxLength ∧ ((put header 10 (compute odd)).drop 10).take 2 = [0xfd, 0xff] := by
  intro header odd
  have short : header.length ≤ maxLength := by decide
  have short' : odd.length ≤ maxLength := by decide
  have fits : 10 + 2 ≤ header.length := by decide
  exact ⟨⟨short, fits, (put_compute_in_wire_order short fits).trans (by decide)⟩, short',
    (put_compute_in_wire_order short' fits).trans (by decide)⟩

end Checksum

end VirtualNet
