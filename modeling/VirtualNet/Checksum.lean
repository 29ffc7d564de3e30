import VirtualNet.Bytes

/-!
# The Internet checksum

The checksum of a string of octets is the complement of the one's-complement sum of its 16-bit
words. Words are taken low octet first, and a checksum is stored low octet first: the
one's-complement sum does not depend on the order of the octets as long as reading and storing
agree, so the two octets land on the wire as they would with the most significant octet first.

`Checksum.compute` sums, `Checksum.verify` accepts a string whose stored checksum makes the sum
come out as zero, and `Checksum.put` stores a checksum at an offset.
-/

namespace VirtualNet

namespace Checksum

/-- One word of the sum; the first octet is the low one. -/
def word (low high : UInt8) : UInt64 :=
  low.toUInt64 + 256 * high.toUInt64

/-- Adds the words of a string to a running sum; a last single octet is the low one of its word. -/
def accumulate (sum : UInt64) : Bytes → UInt64
  | [] => sum
  | [last] => sum + last.toUInt64
  | low :: high :: rest => accumulate (sum + word low high) rest

theorem toNat_carried_lt {sum : UInt64} (large : ¬sum < 65536) :
    (sum % 65536 + sum / 65536).toNat < sum.toNat := by
  have bound := sum.toNat_lt
  have lower : 65536 ≤ sum.toNat := by
    have := (not_congr UInt64.lt_iff_toNat_lt).1 large
    simpa using this
  simp only [UInt64.toNat_add, UInt64.toNat_mod, UInt64.toNat_div, UInt64.reduceToNat]
  exact Nat.lt_of_le_of_lt (Nat.mod_le _ _) (by omega)

/-- Adds the carries above the low 16 bits back in until none is left. -/
def fold (sum : UInt64) : UInt64 :=
  if sum < 65536 then sum else fold (sum % 65536 + sum / 65536)
termination_by sum.toNat
decreasing_by
  rename_i large
  exact toNat_carried_lt large

/-- The checksum of a string of octets, whatever its checksum field holds. -/
def compute (bytes : Bytes) : UInt16 :=
  ~~~(fold (accumulate 0 bytes)).toUInt16

/-- Whether a string that includes its checksum sums to zero. -/
def verify (bytes : Bytes) : Bool :=
  compute bytes == 0

/-- The two octets that store a checksum, low octet first. -/
def store (checksum : UInt16) : Bytes :=
  [checksum.toUInt8, (checksum / 256).toUInt8]

/-- The checksum that two stored octets hold. -/
def load (low high : UInt8) : UInt16 :=
  low.toUInt16 + 256 * high.toUInt16

/-- Overwrites the two octets at an offset with a stored checksum. -/
def put (bytes : Bytes) (offset : Nat) (checksum : UInt16) : Bytes :=
  bytes.take offset ++ store checksum ++ bytes.drop (offset + 2)

@[simp]
theorem length_store (checksum : UInt16) : (store checksum).length = 2 := rfl

/-- Reading a stored checksum gives it back. -/
theorem load_of_store (checksum : UInt16) :
    load checksum.toUInt8 (checksum / 256).toUInt8 = checksum := by
  apply UInt16.toNat_inj.1
  have bound := checksum.toNat_lt
  simp [load, UInt16.toNat_add, UInt16.toNat_mul]
  omega

/-- Storing a checksum that was read gives its octets back. -/
theorem store_load (low high : UInt8) : store (load low high) = [low, high] := by
  have lowBound := low.toNat_lt
  have highBound := high.toNat_lt
  have lower : (load low high).toUInt8 = low := UInt8.toNat_inj.1 (by simp [load])
  have upper : (load low high / 256).toUInt8 = high := by
    apply UInt8.toNat_inj.1
    simp [load, UInt16.toNat_add, UInt16.toNat_mul]
    omega
  rw [store, lower, upper]

end Checksum

end VirtualNet
