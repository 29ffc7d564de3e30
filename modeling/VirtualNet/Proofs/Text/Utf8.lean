import Mathlib.Tactic.IntervalCases
import VirtualNet.Text.Utf8

/-!
# Reading a text back from its octets

A character is encoded as a first octet, which holds its most significant bits, and up to three more
with six bits each. The reader takes these octets one at a time and comes to the character:
`decode_encode` is the step, by the number of octets, and `decode_utf8` the run over a text.
-/

namespace VirtualNet.Text.Utf8

section Started

variable {value missing bits : Nat} {least greatest : UInt8}

/-- An octet between the bounds carries on the character that was started. -/
theorem decode_started (small : bits < 64) (low : least.toNat ≤ bits + 128)
    (high : bits + 128 ≤ greatest.toNat) (rest : Bytes) :
    decode (some ⟨value, missing, least, greatest⟩) (UInt8.ofNat (bits + 128) :: rest) =
      if missing = 1 then some (Char.ofNat (value * 64 + bits)) :: decode none rest
      else decode (some ⟨value * 64 + bits, missing - 1, 0x80, 0xBF⟩) rest := by
  have number : (UInt8.ofNat (bits + 128)).toNat = bits + 128 :=
    UInt8.toNat_ofNat_of_lt' (show bits + 128 < 256 by omega)
  have within : least ≤ UInt8.ofNat (bits + 128) ∧ UInt8.ofNat (bits + 128) ≤ greatest := by
    rw [UInt8.le_iff_toNat_le, UInt8.le_iff_toNat_le, number]
    exact ⟨low, high⟩
  simp only [decode, Option.filter_some, within, number, Nat.add_sub_cancel, and_self,
    decide_true, if_true]

theorem decode_last (small : bits < 64) (rest : Bytes) :
    decode (some ⟨value, 1, 0x80, 0xBF⟩) (UInt8.ofNat (bits + 128) :: rest) =
      some (Char.ofNat (value * 64 + bits)) :: decode none rest := by
  have high : bits + 128 ≤ (0xBF : UInt8).toNat := Nat.le_of_lt_succ (Nat.add_lt_add_right small _)
  rw [decode_started small (Nat.le_add_left _ _) high, if_pos rfl]

theorem decode_more (small : bits < 64) (low : least.toNat ≤ bits + 128)
    (high : bits + 128 ≤ greatest.toNat) (rest : Bytes) :
    decode (some ⟨value, missing + 2, least, greatest⟩) (UInt8.ofNat (bits + 128) :: rest) =
      decode (some ⟨value * 64 + bits, missing + 1, 0x80, 0xBF⟩) rest := by
  rw [decode_started small low high, if_neg (by omega)]
  rfl

end Started

theorem decode_of_lead {octet : UInt8} {part : Started} (started : lead octet = .started part)
    (rest : Bytes) : decode none (octet :: rest) = decode (some part) rest := by
  simp [decode, started]

theorem lead_of_two {bits : Nat} (small : bits < 32) (least : 2 ≤ bits) :
    lead (UInt8.ofNat (bits + 192)) = .started ⟨bits, 1, 0x80, 0xBF⟩ := by
  interval_cases bits <;> rfl

theorem lead_of_three {bits : Nat} (small : bits < 16) :
    lead (UInt8.ofNat (bits + 224)) = .started ⟨bits, 2, if bits = 0 then 0xA0 else 0x80,
      if bits = 13 then 0x9F else 0xBF⟩ := by
  interval_cases bits <;> rfl

theorem lead_of_four {bits : Nat} (small : bits ≤ 4) :
    lead (UInt8.ofNat (bits + 240)) = .started ⟨bits, 3, if bits = 0 then 0x90 else 0x80,
      if bits = 4 then 0x8F else 0xBF⟩ := by
  interval_cases bits <;> rfl

section Number

variable {number : Nat} (rest : Bytes)

theorem decode_one (small : number ≤ 127) :
    decode none (UInt8.ofNat number :: rest) = some (Char.ofNat number) :: decode none rest := by
  have same : (UInt8.ofNat number).toNat = number :=
    UInt8.toNat_ofNat_of_lt' (show number < 256 by omega)
  have first : lead (UInt8.ofNat number) = .complete (Char.ofNat number) := by
    rw [lead, same, if_pos (Nat.lt_succ_of_le small)]
  simp [decode, first]

theorem decode_two (large : ¬number ≤ 127) (small : number ≤ 2047) :
    decode none (UInt8.ofNat (number / 64 % 32 + 192) :: UInt8.ofNat (number % 64 + 128) :: rest) =
      some (Char.ofNat number) :: decode none rest := by
  have whole : number / 64 % 32 * 64 + number % 64 = number := by omega
  rw [decode_of_lead (lead_of_two (by omega) (by omega)), decode_last (by omega), whole]

theorem decode_three (large : ¬number ≤ 2047) (small : number ≤ 65535)
    (valid : number < 55296 ∨ 57343 < number) :
    decode none (UInt8.ofNat (number / 4096 % 16 + 224) ::
        UInt8.ofNat (number / 64 % 64 + 128) :: UInt8.ofNat (number % 64 + 128) :: rest) =
      some (Char.ofNat number) :: decode none rest := by
  have whole : (number / 4096 % 16 * 64 + number / 64 % 64) * 64 + number % 64 = number := by
    omega
  rw [decode_of_lead (lead_of_three (by omega)), decode_more (by omega), decode_last (by omega),
    whole]
  -- The second octet is within its bounds: the number is neither too small nor a surrogate.
  · split
    · change 160 ≤ _
      omega
    · exact Nat.le_add_left _ _
  · split
    · change _ ≤ 159
      omega
    · change _ ≤ 191
      omega

theorem decode_four (large : ¬number ≤ 65535) (small : number < 1114112) :
    decode none (UInt8.ofNat (number / 262144 % 8 + 240) ::
        UInt8.ofNat (number / 4096 % 64 + 128) :: UInt8.ofNat (number / 64 % 64 + 128) ::
          UInt8.ofNat (number % 64 + 128) :: rest) =
      some (Char.ofNat number) :: decode none rest := by
  have whole : ((number / 262144 % 8 * 64 + number / 4096 % 64) * 64 + number / 64 % 64) * 64 +
      number % 64 = number := by
    omega
  rw [decode_of_lead (lead_of_four (by omega)), decode_more (by omega),
    decode_more (by omega) (Nat.le_add_left _ _) (show number / 64 % 64 + 128 ≤ 191 by omega),
    decode_last (by omega), whole]
  -- The second octet is within its bounds: the number is neither too small nor too large.
  · split
    · change 144 ≤ _
      omega
    · exact Nat.le_add_left _ _
  · split
    · change _ ≤ 143
      omega
    · change _ ≤ 191
      omega

end Number

theorem decode_encode (char : Char) (rest : Bytes) :
    decode none (String.utf8EncodeChar char ++ rest) = some char :: decode none rest := by
  have valid : char.val.toNat < 55296 ∨ 57343 < char.val.toNat ∧ char.val.toNat < 1114112 :=
    char.valid
  have same : Char.ofNat char.val.toNat = char := Char.ofNat_toNat char
  conv => rhs; rw [← same]
  fun_cases String.utf8EncodeChar char with
  | case1 number one => exact decode_one rest one
  | case2 number large two => exact decode_two rest large two
  | case3 number _ large three => exact decode_three rest large three (valid.imp_right And.left)
  | case4 number _ _ large => exact decode_four rest large (by omega)

/-- The octets of a text are read as its characters. -/
theorem decode_utf8 (text : String) :
    decode none text.toUTF8.data.toList = text.toList.map some := by
  rw [String.toUTF8_eq_toByteArray, ← String.utf8Encode_toList, List.utf8Encode,
    List.toList_data_toByteArray]
  induction text.toList with
  | nil => rfl
  | cons char rest ih => rw [List.flatMap_cons, decode_encode, ih, List.map_cons]

/-- A text that is written in octets and read again is the same. -/
theorem lossy_utf8 (text : String) : lossy text.toUTF8.data.toList = text := by
  rw [lossy, decode_utf8, List.map_map]
  simp

end VirtualNet.Text.Utf8
