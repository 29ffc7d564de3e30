import VirtualNet.Ipv4.Header
import VirtualNet.Proofs.Checksum.Verification

/-!
# IPv4 headers on the wire

A header of version 4 and five words that stands in front of as many octets as it tells is read
back as it was written, up to the spelling of its protocol. Conversely, what is read from a string
writes the octets that it was read from. A sealed header verifies whatever it held before, and
`verifies_exactly_computed` says which checksums verify in a header and in any string.
-/

namespace VirtualNet.Ipv4

namespace Header

/-- The octet in front of a header of version 4 and five words. -/
theorem versionAndWords : ((4 : UInt8) <<< 4) ||| 5 = 69 := by decide

theorem eq_of_versionAndWords {start : UInt8} (version : start / 16 = 4)
    (headerWords : start % 16 = 5) : start = 69 := by
  simp only [← UInt8.toNat_inj, UInt8.toNat_div, UInt8.toNat_mod, UInt8.reduceToNat] at *
  omega

/-- The first octet of a header, in which its version and its length in words overlap. -/
def start (header : Header) : UInt8 := (header.version <<< 4) ||| header.headerWords

theorem start_eq {header : Header} (version : header.version = 4)
    (headerWords : header.headerWords = 5) : header.start = 69 := by
  simp only [start, version, headerWords, versionAndWords]

/-- A header that was written is read as its first octet tells, with the protocol of its number. -/
theorem parse_toBytes_append_eq (header : Header) (rest : Bytes) :
    parse (header.toBytes ++ rest) =
      if header.start / 16 ≠ 4 then .error .invalidVersion
      else if header.start % 16 ≠ 5 then .error .invalidHeaderFormat
      else if header.totalLength.toNat < 20 ∨ rest.length + 20 < header.totalLength.toNat then
        .error .invalidLength
      else .ok { header with
        version := header.start / 16
        headerWords := header.start % 16
        protocol := header.protocol.canonical } := by
  simp only [parse, toBytes, Bytes.ofWord16, Ipv4Address.octets, Checksum.store, List.cons_append,
    List.nil_append, List.length_cons, wireLength, Bytes.word16_of_ofWord16,
    Checksum.load_of_store]
  rfl

theorem parse_toBytes_append_eq_ok_iff {header read : Header} {rest : Bytes} :
    parse (header.toBytes ++ rest) = .ok read ↔
      header.start = 69 ∧ 20 ≤ header.totalLength.toNat ∧
        header.totalLength.toNat ≤ 20 + rest.length ∧
        { header with
          version := 4, headerWords := 5, protocol := header.protocol.canonical } = read := by
  rw [parse_toBytes_append_eq]
  constructor
  · intro parsed
    split at parsed
    · contradiction
    rename_i version
    split at parsed
    · contradiction
    rename_i headerWords
    split at parsed
    · contradiction
    rename_i fits
    simp only [ne_eq, Decidable.not_not] at version headerWords
    rw [version, headerWords] at parsed
    exact ⟨eq_of_versionAndWords version headerWords, by omega, by omega, Except.ok.inj parsed⟩
  · rintro ⟨start, lower, upper, rfl⟩
    have version : header.start / 16 = 4 := by simp [start]
    have headerWords : header.start % 16 = 5 := by simp [start]
    rw [if_neg (by simpa using version), if_neg (by simpa using headerWords), if_neg (by omega),
      version, headerWords]

theorem parse_toBytes_append {header : Header} {rest : Bytes} (version : header.version = 4)
    (headerWords : header.headerWords = 5) (lower : 20 ≤ header.totalLength.toNat)
    (upper : header.totalLength.toNat ≤ 20 + rest.length) :
    parse (header.toBytes ++ rest) =
      .ok { header with protocol := header.protocol.canonical } := by
  apply parse_toBytes_append_eq_ok_iff.mpr
  refine ⟨start_eq version headerWords, lower, upper, ?_⟩
  rw [← version, ← headerWords]

theorem parse_toBytes_append_of_cut {header : Header} {rest : Bytes} (version : header.version = 4)
    (headerWords : header.headerWords = 5) (cut : 20 + rest.length < header.totalLength.toNat) :
    parse (header.toBytes ++ rest) = .error .invalidLength := by
  have told : header.totalLength.toNat < 20 ∨ rest.length + 20 < header.totalLength.toNat := by
    omega
  simp [parse_toBytes_append_eq, start_eq version headerWords, told]

theorem toBytes_of_parse {bytes : Bytes} {header : Header} (parsed : parse bytes = .ok header) :
    ∃ rest, bytes = header.toBytes ++ rest := by
  simp only [parse] at parsed
  split at parsed
  · rename_i start _ _ _ _ _ _ _ _ _ _ _ _ _ _ _ _ _ _ _ rest
    split at parsed
    · contradiction
    rename_i version
    split at parsed
    · contradiction
    rename_i headerWords
    split at parsed
    · contradiction
    cases parsed
    simp only [ne_eq, Decidable.not_not] at version headerWords
    rcases eq_of_versionAndWords version headerWords with rfl
    refine ⟨rest, ?_⟩
    simp [toBytes, versionAndWords, Bytes.ofWord16_word16, Ipv4Address.octets,
      Checksum.store_load]
  · contradiction

/-! ### The header that stands at the front of a string -/

/-- The total length that the third and the fourth octet of a string tell. -/
def toldLength (bytes : Bytes) : Nat := 256 * (bytes.getD 2 0).toNat + (bytes.getD 3 0).toNat

/-- The header at the front of a string, field by field. -/
def ofOctets (bytes : Bytes) : Header where
  version := bytes.getD 0 0 / 16
  headerWords := bytes.getD 0 0 % 16
  typeOfService := bytes.getD 1 0
  totalLength := Bytes.word16 (bytes.getD 2 0) (bytes.getD 3 0)
  identification := Bytes.word16 (bytes.getD 4 0) (bytes.getD 5 0)
  flagsAndOffset := Bytes.word16 (bytes.getD 6 0) (bytes.getD 7 0)
  timeToLive := bytes.getD 8 0
  protocol := Protocol.ofNumber (bytes.getD 9 0)
  checksum := Checksum.load (bytes.getD 10 0) (bytes.getD 11 0)
  source := ⟨bytes.getD 12 0, bytes.getD 13 0, bytes.getD 14 0, bytes.getD 15 0⟩
  destination := ⟨bytes.getD 16 0, bytes.getD 17 0, bytes.getD 18 0, bytes.getD 19 0⟩

theorem toNat_totalLength_ofOctets (bytes : Bytes) :
    (ofOctets bytes).totalLength.toNat = toldLength bytes :=
  Bytes.toNat_word16 _ _

theorem parse_of_short {bytes : Bytes} (short : bytes.length < 20) :
    parse bytes = .error .invalidLength := by
  unfold parse
  split
  · simp only [List.length_cons] at short
    omega
  · rfl

/-- The checks of a header, in order, on a string that is long enough for one. -/
theorem parse_of_long {bytes : Bytes} (long : 20 ≤ bytes.length) :
    parse bytes =
      if bytes.getD 0 0 / 16 ≠ 4 then .error .invalidVersion
      else if bytes.getD 0 0 % 16 ≠ 5 then .error .invalidHeaderFormat
      else if toldLength bytes < 20 ∨ bytes.length < toldLength bytes then
        .error .invalidLength
      else .ok (ofOctets bytes) := by
  rw [← toNat_totalLength_ofOctets]
  unfold parse
  split
  · rfl
  · rename_i other
    exfalso
    exact other _ _ _ _ _ _ _ _ _ _ _ _ _ _ _ _ _ _ _ _ _ (Bytes.eq_twenty_append long)

/-- A string on which no header is read is refused in the same way when it is cut behind one. -/
theorem parse_take_of_error {bytes : Bytes} {error : PacketError} {room : Nat}
    (wide : 20 ≤ room) (refused : parse bytes = .error error) :
    parse (bytes.take room) = .error error := by
  by_cases short : bytes.length < 20
  · rw [List.take_of_length_le (by omega)]
    exact refused
  have octet : ∀ index < 20, (bytes.take room).getD index 0 = bytes.getD index 0 := by
    intro index inside
    have within : index < room := Nat.lt_of_lt_of_le inside wide
    simp [List.getD_eq_getElem?_getD, within]
  have told : toldLength (bytes.take room) = toldLength bytes := by
    rw [toldLength, octet 2 (by decide), octet 3 (by decide), toldLength]
  rw [parse_of_long (by omega)] at refused
  rw [parse_of_long (by rw [List.length_take]; omega), octet 0 (by decide), told]
  split at refused
  · rename_i version
    rw [if_pos version, refused]
  rename_i version
  rw [if_neg version]
  split at refused
  · rename_i headerWords
    rw [if_pos headerWords, refused]
  rename_i headerWords
  rw [if_neg headerWords]
  split at refused
  · rename_i misfit
    have misfit' : toldLength bytes < 20 ∨ (bytes.take room).length < toldLength bytes := by
      rw [List.length_take]
      omega
    rw [if_pos misfit', refused]
  · cases refused

/-! ### Sealing -/

/-- The checksum stands at an even offset, and nothing else depends on it. -/
theorem toBytes_split (header : Header) :
    ∃ front back : Bytes, front.length = checksumOffset ∧ back.length = 8 ∧
      ∀ checksum, { header with checksum := checksum }.toBytes =
        front ++ Checksum.store checksum ++ back := by
  refine ⟨[(header.version <<< 4) ||| header.headerWords, header.typeOfService] ++
    Bytes.ofWord16 header.totalLength ++ Bytes.ofWord16 header.identification ++
    Bytes.ofWord16 header.flagsAndOffset ++ [header.timeToLive, header.protocol.number],
    header.source.octets ++ header.destination.octets, rfl, rfl, ?_⟩
  intro checksum
  rfl

theorem verifyChecksum_iff (header : Header) :
    header.verifyChecksum = true ↔ header.checksum = header.computeChecksum ∨
      (header.computeChecksum = 0 ∧ header.checksum = 65535) := by
  rcases header.toBytes_split with ⟨front, back, frontLength, backLength, split⟩
  have short : (front ++ Checksum.store 0 ++ back).length ≤ Checksum.maxLength := by
    simp [frontLength, backLength, checksumOffset, Checksum.maxLength]
  rw [verifyChecksum, computeChecksum, split 0, split header.checksum]
  exact Checksum.verify_store_iff (by simp [frontLength, checksumOffset]) short _

theorem verifyChecksum_sealed (header : Header) : header.sealed.verifyChecksum = true :=
  header.sealed.verifyChecksum_iff.mpr (Or.inl rfl)

/--
A string verifies with a checksum stored at an even offset exactly if that is the checksum of the
string with zero stored there, or all ones where this checksum is zero. So a sealed header
verifies whatever it held before, and any header does exactly if the checksum that it holds is the
right one up to the two forms of zero.
-/
theorem verifies_exactly_computed :
    (∀ (bytes : Bytes) (offset : Nat), bytes.length ≤ Checksum.maxLength → offset % 2 = 0 →
      offset + 2 ≤ bytes.length →
        let computed := Checksum.compute (Checksum.put bytes offset 0)
        (∀ checksum, Checksum.verify (Checksum.put bytes offset checksum) = true ↔
          checksum = computed ∨ (computed = 0 ∧ checksum = 0xFFFF)) ∧
        Checksum.verify (Checksum.put bytes offset computed) = true) ∧
      ∀ header : Header, header.sealed.verifyChecksum = true ∧
        (header.verifyChecksum = true ↔ header.checksum = header.computeChecksum ∨
          (header.computeChecksum = 0 ∧ header.checksum = 0xFFFF)) := by
  constructor
  · intro bytes offset short even fits computed
    have exactly := Checksum.verify_put_iff short even fits
    exact ⟨exactly, (exactly computed).mpr (Or.inl rfl)⟩
  · intro header
    exact ⟨header.verifyChecksum_sealed, header.verifyChecksum_iff⟩

/-- Two checksums verify if the rest of the string sums to all ones, and one if it has no sum. -/
theorem verifies_both_zeros :
    let full : Bytes := [255, 255, 0, 0, 0]
    let empty : Bytes := [0, 0, 7, 7]
    (full.length ≤ Checksum.maxLength ∧ 2 % 2 = 0 ∧ 2 + 2 ≤ full.length ∧
      (∀ checksum, Checksum.verify (Checksum.put full 2 checksum) = true ↔
        checksum = 0 ∨ checksum = 0xFFFF)) ∧
      empty.length ≤ Checksum.maxLength ∧ 2 + 2 ≤ empty.length ∧
      ∀ checksum, Checksum.verify (Checksum.put empty 2 checksum) = true ↔ checksum = 0xFFFF := by
  intro full empty
  have short : full.length ≤ Checksum.maxLength := by decide
  have short' : empty.length ≤ Checksum.maxLength := by decide
  have zero : Checksum.compute (Checksum.put full 2 0) = 0 :=
    UInt16.toNat_inj.1 ((Checksum.toNat_compute (by decide)).trans (by decide))
  have ones : Checksum.compute (Checksum.put empty 2 0) = 0xFFFF :=
    UInt16.toNat_inj.1 ((Checksum.toNat_compute (by decide)).trans (by decide))
  have fullExactly := (verifies_exactly_computed.1 full 2 short rfl (by decide)).1
  have emptyExactly := (verifies_exactly_computed.1 empty 2 short' rfl (by decide)).1
  rw [zero] at fullExactly
  rw [ones] at emptyExactly
  refine ⟨⟨short, rfl, by decide, ?_⟩, short', by decide, ?_⟩
  · intro checksum
    exact (fullExactly checksum).trans (by simp)
  · intro checksum
    exact (emptyExactly checksum).trans (by simp)

end Header

end VirtualNet.Ipv4
