/-!
# Octets on the wire

Packets and messages are lists of octets. Multi-octet fields travel most significant octet first;
`Bytes.ofWord16` and `Bytes.ofWord32` write such a field and `Bytes.word16` and `Bytes.word32`
read it back.
-/

namespace VirtualNet

/-- A string of octets in the order in which they travel. -/
abbrev Bytes := List UInt8

namespace Bytes

/-- The two octets of a 16-bit field, most significant first. -/
def ofWord16 (word : UInt16) : Bytes :=
  [(word / 256).toUInt8, word.toUInt8]

/-- The 16-bit field with the given octets, most significant first. -/
def word16 (high low : UInt8) : UInt16 :=
  high.toUInt16 * 256 + low.toUInt16

/-- The four octets of a 32-bit field, most significant first. -/
def ofWord32 (word : UInt32) : Bytes :=
  [(word / 16777216).toUInt8, (word / 65536).toUInt8, (word / 256).toUInt8, word.toUInt8]

/-- The 32-bit field with the given octets, most significant first. -/
def word32 (first second third fourth : UInt8) : UInt32 :=
  first.toUInt32 * 16777216 + second.toUInt32 * 65536 + third.toUInt32 * 256 + fourth.toUInt32

/-- A string of twenty octets or more, with its first twenty octets by name. -/
theorem eq_twenty_append {bytes : Bytes} (long : 20 ≤ bytes.length) :
    bytes = bytes[0] :: bytes[1] :: bytes[2] :: bytes[3] :: bytes[4] :: bytes[5] :: bytes[6] ::
      bytes[7] :: bytes[8] :: bytes[9] :: bytes[10] :: bytes[11] :: bytes[12] :: bytes[13] ::
      bytes[14] :: bytes[15] :: bytes[16] :: bytes[17] :: bytes[18] :: bytes[19] ::
      bytes.drop 20 := by
  simp only [List.getElem_cons_drop, List.drop_zero]

@[simp]
theorem length_ofWord16 (word : UInt16) : (ofWord16 word).length = 2 := rfl

@[simp]
theorem length_ofWord32 (word : UInt32) : (ofWord32 word).length = 4 := rfl

theorem toNat_word16 (high low : UInt8) :
    (word16 high low).toNat = 256 * high.toNat + low.toNat := by
  have highBound := high.toNat_lt
  have lowBound := low.toNat_lt
  simp [word16, UInt16.toNat_add, UInt16.toNat_mul]
  omega

/-- Reading a written 16-bit field gives the field back. -/
theorem word16_of_ofWord16 (word : UInt16) :
    word16 (word / 256).toUInt8 word.toUInt8 = word := by
  apply UInt16.toNat_inj.1
  have bound := word.toNat_lt
  simp [word16, UInt16.toNat_add, UInt16.toNat_mul]
  omega

/-- Writing a 16-bit field that was read gives its octets back. -/
theorem ofWord16_word16 (high low : UInt8) : ofWord16 (word16 high low) = [high, low] := by
  have highBound := high.toNat_lt
  have lowBound := low.toNat_lt
  have upper : (word16 high low / 256).toUInt8 = high := by
    apply UInt8.toNat_inj.1
    simp [word16, UInt16.toNat_add, UInt16.toNat_mul]
    omega
  have lower : (word16 high low).toUInt8 = low := UInt8.toNat_inj.1 (by simp [word16])
  rw [ofWord16, upper, lower]

/-- Reading a written 32-bit field gives the field back. -/
theorem word32_of_ofWord32 (word : UInt32) :
    word32 (word / 16777216).toUInt8 (word / 65536).toUInt8 (word / 256).toUInt8 word.toUInt8 =
      word := by
  apply UInt32.toNat_inj.1
  have bound := word.toNat_lt
  simp [word32, UInt32.toNat_add, UInt32.toNat_mul]
  omega

/-- Writing a 32-bit field that was read gives its octets back. -/
theorem ofWord32_word32 (first second third fourth : UInt8) :
    ofWord32 (word32 first second third fourth) = [first, second, third, fourth] := by
  have firstBound := first.toNat_lt
  have secondBound := second.toNat_lt
  have thirdBound := third.toNat_lt
  have fourthBound := fourth.toNat_lt
  have number : (word32 first second third fourth).toNat =
      first.toNat * 16777216 + second.toNat * 65536 + third.toNat * 256 + fourth.toNat := by
    simp [word32, UInt32.toNat_add, UInt32.toNat_mul]
    omega
  simp only [ofWord32, List.cons.injEq, ← UInt8.toNat_inj, UInt32.toNat_toUInt8,
    UInt32.toNat_div, number, UInt32.reduceToNat, and_true]
  omega

/-! ### The halves of an octet -/

/-- The upper half of an octet. -/
theorem shiftRight_four (octet : UInt8) : octet >>> 4 = octet / 16 := by
  apply UInt8.toNat_inj.1
  simp [Nat.shiftRight_eq_div_pow]

/-- The lower half of an octet. -/
theorem and_fifteen (octet : UInt8) : octet &&& 15 = octet % 16 := by
  apply UInt8.toNat_inj.1
  simpa using Nat.and_two_pow_sub_one_eq_mod octet.toNat 4

theorem toNat_shiftLeft_four (octet : UInt8) : (octet <<< 4).toNat = octet.toNat * 16 % 256 := by
  simp [Nat.shiftLeft_eq]

/-- The half of an octet that is left when it is shifted into the upper half. -/
theorem shiftLeft_four_div (octet : UInt8) : (octet <<< 4) / 16 = octet % 16 := by
  apply UInt8.toNat_inj.1
  simp only [UInt8.toNat_div, UInt8.toNat_mod, toNat_shiftLeft_four, UInt8.reduceToNat]
  omega

/-- An octet without its lower half. -/
theorem and_complement_fifteen (octet : UInt8) : octet &&& (240 : UInt8) = (octet >>> 4) <<< 4 := by
  have everyOctet : ∀ number : Fin 256,
      UInt8.ofNat number &&& (240 : UInt8) = (UInt8.ofNat number >>> 4) <<< 4 := by
    decide +kernel
  simpa using everyOctet ⟨octet.toNat, octet.toNat_lt⟩

theorem and_complement_fifteen_eq_self_iff (octet : UInt8) :
    octet &&& 240 = octet ↔ octet &&& 15 = 0 := by
  rw [and_complement_fifteen, and_fifteen, shiftRight_four]
  simp only [← UInt8.toNat_inj, toNat_shiftLeft_four, UInt8.toNat_div, UInt8.toNat_mod,
    UInt8.reduceToNat]
  have bound := octet.toNat_lt
  omega

end Bytes

end VirtualNet
