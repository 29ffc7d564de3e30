import VirtualNet.Proofs.Tcp.Header

/-!
# Which strings are TCP headers

A header shares the octet that tells its length with four reserved bits. Writing shifts the upper
half of the length out and clears the reserved bits; reading drops them. `Reading` lists what may
come of reading a string, and `reads_all_but_reserved_bits` says that nothing else is lost in
either direction.
-/

namespace VirtualNet.Tcp.Header

/-- The header at the front of a string, field by field. -/
def ofOctets (bytes : Bytes) : Header where
  sourcePort := Bytes.word16 (bytes.getD 0 0) (bytes.getD 1 0)
  destinationPort := Bytes.word16 (bytes.getD 2 0) (bytes.getD 3 0)
  sequenceNumber :=
    Bytes.word32 (bytes.getD 4 0) (bytes.getD 5 0) (bytes.getD 6 0) (bytes.getD 7 0)
  acknowledgmentNumber :=
    Bytes.word32 (bytes.getD 8 0) (bytes.getD 9 0) (bytes.getD 10 0) (bytes.getD 11 0)
  dataOffset := bytes.getD 12 0 / 16
  flags := Flags.ofOctet (bytes.getD 13 0)
  windowSize := Bytes.word16 (bytes.getD 14 0) (bytes.getD 15 0)
  checksum := Checksum.load (bytes.getD 16 0) (bytes.getD 17 0)
  urgentPointer := Bytes.word16 (bytes.getD 18 0) (bytes.getD 19 0)

/-- The checks of a header, in order, with the header that passes them. -/
theorem parse_eq (bytes : Bytes) :
    parse bytes =
      if bytes.length < 20 then .error .invalidLength
      else if bytes.getD 12 0 / 16 ≠ 5 then .error .invalidHeaderFormat
      else .ok (ofOctets bytes) := by
  unfold parse
  split
  · exact (if_neg (by simp)).symm
  · rename_i other
    -- A string without twenty octets to name is short.
    refine (if_pos (Nat.lt_of_not_le fun long => ?_)).symm
    exact other _ _ _ _ _ _ _ _ _ _ _ _ _ _ _ _ _ _ _ _ _ (Bytes.eq_twenty_append long)

/-- The first twenty octets of a string, with the low half of the thirteenth cleared. -/
def kept (bytes : Bytes) : Bytes := (bytes.take 20).modify 12 (· &&& 0xF0)

/-- What may come of reading a header from a string. -/
inductive Reading (bytes : Bytes) : Except PacketError Header → Prop where
  | short (short : bytes.length < 20) : Reading bytes (.error .invalidLength)
  | misfit (long : 20 ≤ bytes.length) (words : bytes.getD 12 0 >>> 4 ≠ 5) :
      Reading bytes (.error .invalidHeaderFormat)
  | header {header : Header} (long : 20 ≤ bytes.length) (words : bytes.getD 12 0 >>> 4 = 5)
      (dataOffset : header.dataOffset = 5) (written : header.toBytes = kept bytes) :
      Reading bytes (.ok header)

theorem reading_parse (bytes : Bytes) : Reading bytes (parse bytes) := by
  unfold parse
  split
  · rename_i offset _ _ _ _ _ _ _ rest
    split
    · rename_i words
      apply Reading.misfit
      · simp
      · simpa [Bytes.shiftRight_four] using words
    · rename_i words
      have five : offset / 16 = 5 := Decidable.not_not.mp words
      have shifted : offset >>> 4 = 5 := (Bytes.shiftRight_four offset).trans five
      apply Reading.header
      · simp
      · simpa using shifted
      · exact five
      · simp [toBytes, kept, five, Bytes.and_complement_fifteen, shifted, Bytes.ofWord16_word16,
          Bytes.ofWord32_word32, Checksum.store_load]
  · rename_i other
    -- A string without twenty octets to name is short.
    apply Reading.short
    apply Nat.lt_of_not_le
    intro long
    exact other _ _ _ _ _ _ _ _ _ _ _ _ _ _ _ _ _ _ _ _ _ (Bytes.eq_twenty_append long)

variable {bytes bytes' : Bytes} {header header' : Header}

/-- The checks of a header, in order. -/
theorem parse_checks (bytes : Bytes) :
    if bytes.length < 20 then parse bytes = .error .invalidLength
    else if bytes.getD 12 0 >>> 4 ≠ 5 then parse bytes = .error .invalidHeaderFormat
    else ∃ header, parse bytes = .ok header ∧ header.toBytes = kept bytes := by
  have reading := reading_parse bytes
  generalize parse bytes = result at reading ⊢
  cases reading with
  | short short => rw [if_pos short]
  | misfit long words => rw [if_neg (Nat.not_lt.mpr long), if_pos words]
  | header long words dataOffset written =>
      rw [if_neg (Nat.not_lt.mpr long), if_neg (Decidable.not_not.mpr words)]
      exact ⟨_, rfl, written⟩

theorem kept_of_parse (parsed : parse bytes = .ok header) :
    20 ≤ bytes.length ∧ bytes.getD 12 0 >>> 4 = 5 ∧ header.dataOffset = 5 ∧
      header.toBytes = kept bytes := by
  have reading := reading_parse bytes
  rw [parsed] at reading
  cases reading with
  | header long words dataOffset written => exact ⟨long, words, dataOffset, written⟩

/-- A header that was read is told by the octets that it is written with. -/
theorem eq_iff_kept_eq (parsed : parse bytes = .ok header) (parsed' : parse bytes' = .ok header') :
    header = header' ↔ kept bytes = kept bytes' := by
  rcases kept_of_parse parsed with ⟨-, -, dataOffset, written⟩
  rcases kept_of_parse parsed' with ⟨-, -, dataOffset', written'⟩
  rw [← written, ← written']
  constructor
  · intro same
    exact congrArg toBytes same
  · intro same
    have read := parse_toBytes_append dataOffset []
    rw [same, parse_toBytes_append dataOffset' []] at read
    exact (Except.ok.inj read).symm

theorem getElem?_kept {index : Nat} (inside : index < 20) (apart : index ≠ 12) :
    (kept bytes)[index]? = bytes[index]? := by
  simp [kept, inside, apart.symm]

theorem getElem?_kept_words (long : 20 ≤ bytes.length) (words : bytes.getD 12 0 >>> 4 = 5) :
    (kept bytes)[12]? = some 80 := by
  have inside : 12 < bytes.length := by omega
  have shifted : bytes[12] >>> 4 = 5 := by simpa [inside] using words
  have back : (5 : UInt8) <<< 4 = 80 := by decide
  simp [kept, inside, Bytes.and_complement_fifteen, shifted, back]

/-- Everything is kept exactly if the reserved bits are clear. -/
theorem kept_eq_take_iff (long : 20 ≤ bytes.length) :
    kept bytes = bytes.take 20 ↔ bytes.getD 12 0 &&& 15 = 0 := by
  have inside : 12 < bytes.length := by omega
  rw [← Bytes.and_complement_fifteen_eq_self_iff]
  constructor
  · intro same
    have octet := congrArg (·[12]?) same
    simpa [kept, inside] using octet
  · intro clear
    apply List.ext_getElem?
    intro index
    by_cases apart : index = 12
    · simpa [kept, inside, apart] using clear
    · simp [kept, Ne.symm apart]

theorem kept_eq_iff (long : 20 ≤ bytes.length) (words : bytes.getD 12 0 >>> 4 = 5)
    (long' : 20 ≤ bytes'.length) (words' : bytes'.getD 12 0 >>> 4 = 5) :
    kept bytes = kept bytes' ↔ ∀ index < 20, index ≠ 12 → bytes[index]? = bytes'[index]? := by
  constructor
  · intro same index inside apart
    rw [← getElem?_kept inside apart, same, getElem?_kept inside apart]
  · intro agree
    apply List.ext_getElem?
    intro index
    by_cases inside : index < 20
    · -- The upper half of the thirteenth octet is five in both strings.
      by_cases apart : index = 12
      · rw [apart, getElem?_kept_words long words, getElem?_kept_words long' words']
      · rw [getElem?_kept inside apart, getElem?_kept inside apart]
        exact agree index inside apart
    · have beyond (octets : Bytes) : (kept octets)[index]? = none := by
        apply List.getElem?_eq_none
        simp [kept]
        omega
      rw [beyond, beyond]

/--
A header is read back from what it writes, whatever follows, if the low half of its length is five;
the rest of its length is lost. A string is read as a header by its length and then by the upper
half of the thirteenth octet; the header that was read writes the octets that it was read from, but
for the low half of that octet, and it is the same for strings that differ there only.
-/
theorem reads_all_but_reserved_bits :
    (∀ (header : Header) (pad : Bytes),
      (if header.dataOffset % 16 = 5 then
          parse (header.toBytes ++ pad) = .ok { header with dataOffset := 5 }
        else ∃ error, parse (header.toBytes ++ pad) = .error error) ∧
      (parse (header.toBytes ++ pad) = .ok header ↔ header.dataOffset = 5)) ∧
    (∀ bytes : Bytes,
      if bytes.length < 20 then parse bytes = .error .invalidLength
      else if bytes.getD 12 0 >>> 4 ≠ 5 then parse bytes = .error .invalidHeaderFormat
      else ∃ header, parse bytes = .ok header ∧
        header.toBytes = (bytes.take 20).modify 12 (· &&& 0xF0)) ∧
    ∀ (bytes bytes' : Bytes) (header header' : Header),
      parse bytes = .ok header → parse bytes' = .ok header' →
        (header = header' ↔
          (∀ index < 20, index ≠ 12 → bytes[index]? = bytes'[index]?) ∧
            bytes.getD 12 0 >>> 4 = bytes'.getD 12 0 >>> 4) := by
  refine ⟨?_, parse_checks, ?_⟩
  · intro header pad
    constructor
    · rw [parse_toBytes_append_eq]
      by_cases five : header.dataOffset % 16 = 5
      · simp [five]
      · simp [five]
    · constructor
      · intro read
        exact (kept_of_parse read).2.2.1
      · intro five
        exact parse_toBytes_append five pad
  · intro bytes bytes' header header' parsed parsed'
    rcases kept_of_parse parsed with ⟨long, words, -, -⟩
    rcases kept_of_parse parsed' with ⟨long', words', -, -⟩
    rw [eq_iff_kept_eq parsed parsed', kept_eq_iff long words long' words']
    constructor
    · intro agree
      exact ⟨agree, words.trans words'.symm⟩
    · rintro ⟨agree, -⟩
      exact agree

/-- Two strings that differ in the reserved bits and behind the header are the same header. -/
theorem reads_same_behind_reserved_bits :
    let clear : Bytes := [48, 57, 0, 80, 0, 0, 0, 7, 0, 0, 0, 0, 0x50, 18, 255, 255, 1, 2, 0, 0]
    let marked : Bytes := [48, 57, 0, 80, 0, 0, 0, 7, 0, 0, 0, 0, 0x5F, 18, 255, 255, 1, 2, 0, 0, 9]
    ∃ header header', parse clear = .ok header ∧ parse marked = .ok header' ∧
      header = header' ∧ header'.toBytes ≠ marked.take 20 := by
  intro clear marked
  have read : ∃ header, parse clear = .ok header := ⟨_, rfl⟩
  have read' : ∃ header, parse marked = .ok header := ⟨_, rfl⟩
  rcases read with ⟨header, parsed⟩
  rcases read' with ⟨header', parsed'⟩
  have same := (reads_all_but_reserved_bits.2.2 clear marked header header' parsed parsed').mpr
    ⟨by decide, by decide⟩
  refine ⟨header, header', parsed, parsed', same, ?_⟩
  rw [(kept_of_parse parsed').2.2.2]
  decide

end VirtualNet.Tcp.Header
