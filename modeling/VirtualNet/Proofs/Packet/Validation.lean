import VirtualNet.Proofs.Packet.Grammar

/-!
# Which valid packets are read

Validity is judged by the length that a packet tells and by the checksum of its header. Reading
judges the first octet as well, in which the version and the length of the header stand, and a
packet may hold any values there. `reads_valid_by_first_octet` says what is read of a valid packet;
`refuses_valid_of_other_version` shows that validity alone does not make a packet readable.
-/

namespace VirtualNet

namespace Packet

/-- Of a packet that tells its length, what is read is what is read of its header, with the payload
as it stands. -/
theorem parse_build_of_told {packet : Packet} {header : Ipv4.Header}
    (told : packet.header.totalLength.toNat = 20 + packet.payload.length)
    (read : Ipv4.Header.parse packet.build = .ok header) :
    ∃ received, parse packet.build = .ok received ∧ received.payload = packet.payload ∧
      received.header.toBytes = packet.header.toBytes := by
  rcases Ipv4.Header.parse_toBytes_append_eq_ok_iff.mp read with ⟨start, -, -, same⟩
  refine ⟨_, parse_of_read read, ?_, ?_⟩
  · have whole : packet.build.length = header.totalLength.toNat := by
      rw [← same, told, build, List.length_append, Ipv4.Header.length_toBytes]
    rw [List.take_of_length_le (Nat.le_of_eq whole)]
    exact List.drop_left' (Ipv4.Header.length_toBytes _)
  · rcases Ipv4.Header.toBytes_of_parse read with ⟨rest, written⟩
    exact (List.append_inj_left written rfl).symm

/--
What is read of a valid packet depends on the first octet of its header alone. With the octet of
version 4 and five words the packet is read, with its payload and with a header that travels as its
own does; with any other it is refused, for its version if that is not 4 and else for the length of
its header.
-/
theorem reads_valid_by_first_octet (packet : Packet) (valid : packet.validate = .ok ()) :
    let first := (packet.header.version <<< 4) ||| packet.header.headerWords
    if first >>> 4 ≠ 4 then parse packet.build = .error .invalidVersion
    else if first &&& 15 ≠ 5 then parse packet.build = .error .invalidHeaderFormat
    else ∃ received, parse packet.build = .ok received ∧ received.payload = packet.payload ∧
      received.header.toBytes = packet.header.toBytes := by
  intro first
  have told := (packet.validate_eq_ok_iff.mp valid).1
  have read := packet.header.parse_toBytes_append_eq packet.payload
  have octet : packet.header.start = first := rfl
  rw [octet] at read
  rw [Bytes.shiftRight_four, Bytes.and_fifteen]
  split
  · rename_i version
    rw [if_pos version] at read
    exact parse_of_refused read
  rename_i version
  rw [if_neg version] at read
  split
  · rename_i headerWords
    rw [if_pos headerWords] at read
    exact parse_of_refused read
  rename_i headerWords
  rw [if_neg headerWords, if_neg (by omega)] at read
  exact parse_build_of_told told read

/-- A packet that names version 0 and 69 words of header, and TCP by its bare number, is valid and
is read: its first octet is the same as that of version 4 and five words. -/
theorem reads_valid_of_overlapping_halves :
    let packet : Packet :=
      ⟨({ Ipv4.Header.create (.other 6) ⟨10, 0, 0, 1⟩ ⟨10, 0, 0, 2⟩ with
        version := 0, headerWords := 69, totalLength := 22 } : Ipv4.Header).sealed, [7, 7]⟩
    packet.validate = .ok () ∧
      ∃ received, parse packet.build = .ok received ∧ received ≠ packet ∧
        received.payload = [7, 7] ∧ received.header.toBytes = packet.header.toBytes := by
  intro packet
  have valid : packet.validate = .ok () :=
    packet.validate_eq_ok_iff.mpr ⟨rfl, Ipv4.Header.verifyChecksum_sealed _⟩
  have reads := reads_valid_by_first_octet packet valid
  simp only at reads
  rw [if_neg (by decide), if_neg (by decide)] at reads
  rcases reads with ⟨received, read, payload, octets⟩
  refine ⟨valid, received, read, ?_, payload, octets⟩
  rintro rfl
  have version := (wellFormed_of_parse read).1.version
  exact absurd version (by decide)

/-- Packets of version 5, or of six words of header, that tell their length and hold the right
checksum are valid, and they are not read. -/
theorem refuses_valid_of_other_version :
    let header := Ipv4.Header.create .test ⟨10, 0, 0, 1⟩ ⟨10, 0, 0, 2⟩
    let later : Packet := ⟨({ header with version := 5, totalLength := 23 } : Ipv4.Header).sealed,
      [1, 2, 3]⟩
    let longer : Packet :=
      ⟨({ header with headerWords := 6, totalLength := 23 } : Ipv4.Header).sealed, [1, 2, 3]⟩
    (later.validate = .ok () ∧ parse later.build = .error .invalidVersion) ∧
      longer.validate = .ok () ∧ parse longer.build = .error .invalidHeaderFormat := by
  intro header later longer
  have laterValid : later.validate = .ok () :=
    later.validate_eq_ok_iff.mpr ⟨rfl, Ipv4.Header.verifyChecksum_sealed _⟩
  have longerValid : longer.validate = .ok () :=
    longer.validate_eq_ok_iff.mpr ⟨rfl, Ipv4.Header.verifyChecksum_sealed _⟩
  refine ⟨⟨laterValid, parse_of_refused ?_⟩, longerValid, parse_of_refused ?_⟩
  · rw [build, Ipv4.Header.parse_toBytes_append_eq, if_pos (by decide)]
  · rw [build, Ipv4.Header.parse_toBytes_append_eq, if_neg (by decide), if_pos (by decide)]

end Packet

end VirtualNet
