import VirtualNet.Proofs.Packet.Delivery

/-!
# Which strings are packets

A string is read as a packet if it begins with a header of version 4 and five words whose total
length covers the header and is not beyond the string. The packet ends where its total length says:
it writes that beginning of the string, whatever follows is ignored, and nothing shorter is read.
-/

namespace VirtualNet

namespace Packet

theorem parse_of_refused {bytes : Bytes} {error : PacketError}
    (refused : Ipv4.Header.parse bytes = .error error) : parse bytes = .error error := by
  simp only [parse, refused, bind, Except.bind]

theorem parse_of_read {bytes : Bytes} {header : Ipv4.Header}
    (read : Ipv4.Header.parse bytes = .ok header) :
    parse bytes = .ok ⟨header, (bytes.take header.totalLength.toNat).drop 20⟩ := by
  simp only [parse, read, bind, Except.bind, pure, Except.pure, Ipv4.Header.wireLength]

theorem WellFormed.length_build {packet : Packet} (wellFormed : packet.WellFormed) :
    packet.build.length = packet.header.totalLength.toNat := by
  rw [wellFormed.totalLength, build, List.length_append, Ipv4.Header.length_toBytes]

theorem WellFormed.payloadLength_eq {packet : Packet} (wellFormed : packet.WellFormed) :
    packet.header.payloadLength = .ok packet.payload.length := by
  have covers : ¬packet.header.totalLength.toNat < 20 := by
    rw [wellFormed.totalLength]
    omega
  rw [Ipv4.Header.payloadLength, Ipv4.Header.wireLength, if_neg covers, wellFormed.totalLength,
    Nat.add_sub_cancel_left]

/-- A packet that tells its length is valid if its checksum is right. -/
theorem WellFormed.validate_iff {packet : Packet} (wellFormed : packet.WellFormed) :
    packet.validate = .ok () ↔ packet.ipChecksumRight = true :=
  packet.validate_eq_ok_iff.trans (and_iff_right wellFormed.totalLength)

/-- A beginning of a packet that is not the whole packet is not read as one. -/
theorem parse_of_cut {packet : Packet} (wellFormed : packet.WellFormed) {front : Bytes}
    (first : front <+: packet.build) (cut : front.length < packet.build.length) :
    parse front = .error .invalidLength := by
  apply parse_of_refused
  by_cases short : front.length < 20
  · exact Ipv4.Header.parse_of_short short
  · have headerFirst : packet.header.toBytes <+: front := by
      apply List.prefix_of_prefix_length_le _ first
      · simpa using Nat.le_of_not_lt short
      · exact List.prefix_append _ _
    rcases headerFirst with ⟨rest, rfl⟩
    apply Ipv4.Header.parse_toBytes_append_of_cut wellFormed.version wellFormed.headerWords
    rw [wellFormed.length_build] at cut
    simpa using cut

/-- A string whose header passes every check is read as the packet that its beginning is. -/
theorem parse_of_told {bytes : Bytes} (version : bytes.getD 0 0 / 16 = 4)
    (headerWords : bytes.getD 0 0 % 16 = 5) (lower : 20 ≤ Ipv4.Header.toldLength bytes)
    (upper : Ipv4.Header.toldLength bytes ≤ bytes.length) :
    ∃ packet, parse bytes = .ok packet ∧ packet.WellFormed ∧
      packet.build = bytes.take (Ipv4.Header.toldLength bytes) := by
  have fits : ¬(Ipv4.Header.toldLength bytes < 20 ∨
      bytes.length < Ipv4.Header.toldLength bytes) := by omega
  have read : Ipv4.Header.parse bytes = .ok (Ipv4.Header.ofOctets bytes) := by
    rw [Ipv4.Header.parse_of_long (Nat.le_trans lower upper), if_neg (by simpa using version),
      if_neg (by simpa using headerWords), if_neg fits]
  have told := Ipv4.Header.toNat_totalLength_ofOctets bytes
  rcases Ipv4.Header.toBytes_of_parse read with ⟨rest, written⟩
  have front : (bytes.take (Ipv4.Header.toldLength bytes)).take 20 =
      (Ipv4.Header.ofOctets bytes).toBytes := by
    rw [List.take_take, Nat.min_eq_left lower]
    exact (congrArg (List.take 20) written).trans
      (List.take_left' (Ipv4.Header.length_toBytes _))
  refine ⟨_, parse_of_read read, ⟨version, headerWords, ?_, ?_⟩, ?_⟩
  · simp [Ipv4.Protocol.canonical, Ipv4.Header.ofOctets]
  · simp only [told, List.length_drop, List.length_take]
    omega
  · rw [build, told, ← front, List.take_append_drop]

/-- A packet that was read tells its length and writes the octets that it was read from. -/
theorem wellFormed_of_parse {bytes : Bytes} {packet : Packet} (parsed : parse bytes = .ok packet) :
    packet.WellFormed ∧ packet.build = bytes.take packet.length ∧
      packet.length ≤ bytes.length := by
  have unrefused : ∀ {error}, Ipv4.Header.parse bytes ≠ .error error := by
    intro error refused
    rw [parse_of_refused refused] at parsed
    cases parsed
  by_cases short : bytes.length < 20
  · exact absurd (Ipv4.Header.parse_of_short short) unrefused
  have checked := Ipv4.Header.parse_of_long (Nat.le_of_not_lt short)
  split at checked
  · exact absurd checked unrefused
  rename_i version
  split at checked
  · exact absurd checked unrefused
  rename_i headerWords
  split at checked
  · exact absurd checked unrefused
  rename_i fits
  rcases parse_of_told (Decidable.not_not.mp version) (Decidable.not_not.mp headerWords)
    (by omega) (by omega) with ⟨read, parsed', wellFormed, built⟩
  rw [parsed] at parsed'
  cases parsed'
  have size : packet.length = Ipv4.Header.toldLength bytes := by
    have sizes := congrArg List.length built
    rw [wellFormed.length_build, List.length_take, wellFormed.totalLength] at sizes
    rw [length, Ipv4.Header.wireLength]
    omega
  rw [size]
  exact ⟨wellFormed, built, by omega⟩

/--
A string that is cut behind a header is read as before, if it was refused or the packet that it
begins with is kept whole; otherwise it is too short.
-/
theorem parse_take {bytes : Bytes} {room : Nat} (wide : 20 ≤ room) :
    parse (bytes.take room) =
      match parse bytes with
      | .error error => .error error
      | .ok packet => if room < packet.length then .error .invalidLength else .ok packet := by
  cases parsed : parse bytes with
  | error error =>
      apply parse_of_refused
      apply Ipv4.Header.parse_take_of_error wide
      cases read : Ipv4.Header.parse bytes with
      | error cause =>
          rw [parse_of_refused read] at parsed
          cases parsed
          rfl
      | ok header =>
          rw [parse_of_read read] at parsed
          cases parsed
  | ok packet =>
      rcases wellFormed_of_parse parsed with ⟨wellFormed, built, inside⟩
      have size : packet.build.length = packet.length := by
        rw [built, List.length_take, Nat.min_eq_left inside]
      simp only
      by_cases cut : room < packet.length
      · rw [if_pos cut]
        apply parse_of_cut wellFormed
        · rw [built]
          exact List.take_prefix_take_left (Nat.le_of_lt cut)
        · rw [size, List.length_take]
          omega
      · have kept : bytes.take room = packet.build ++ (bytes.take room).drop packet.length := by
          have front : (bytes.take room).take packet.length = packet.build := by
            rw [List.take_take, Nat.min_eq_left (Nat.le_of_not_lt cut), built]
          rw [← front, List.take_append_drop]
        rw [if_neg cut, kept]
        exact parse_build_append wellFormed _

/--
The checks of a packet, in order, and what passes them: a packet that writes the octets up to the
total length, whose header tells the length of its payload and which is valid exactly if its
checksum is right. The same packet is read from these octets whatever follows them, and none from
a shorter beginning.
-/
theorem parse_accepts_exactly (bytes : Bytes) :
    let size := 256 * (bytes.getD 2 0).toNat + (bytes.getD 3 0).toNat
    if bytes.length < 20 then parse bytes = .error .invalidLength
    else if bytes.getD 0 0 >>> 4 ≠ 4 then parse bytes = .error .invalidVersion
    else if bytes.getD 0 0 &&& 15 ≠ 5 then parse bytes = .error .invalidHeaderFormat
    else if size < 20 ∨ bytes.length < size then parse bytes = .error .invalidLength
    else ∃ packet, parse bytes = .ok packet ∧ packet.build = bytes.take size ∧
      packet.length = size ∧ packet.header.payloadLength = .ok packet.payload.length ∧
      (packet.validate = .ok () ↔ packet.ipChecksumRight = true) ∧
      (∀ junk, parse (bytes.take size ++ junk) = .ok packet) ∧
      ∀ front, front <+: bytes.take size → front ≠ bytes.take size →
        parse front = .error .invalidLength := by
  intro size
  have told : Ipv4.Header.toldLength bytes = size := rfl
  rw [Bytes.shiftRight_four, Bytes.and_fifteen]
  split
  · rename_i short
    exact parse_of_refused (Ipv4.Header.parse_of_short short)
  rename_i long
  have checked := Ipv4.Header.parse_of_long (Nat.le_of_not_lt long)
  split
  · rename_i version
    rw [if_pos version] at checked
    exact parse_of_refused checked
  rename_i version
  rw [if_neg version] at checked
  split
  · rename_i headerWords
    rw [if_pos headerWords] at checked
    exact parse_of_refused checked
  rename_i headerWords
  rw [if_neg headerWords] at checked
  split
  · rename_i misfit
    rw [told, if_pos misfit] at checked
    exact parse_of_refused checked
  rename_i fits
  rcases parse_of_told (Decidable.not_not.mp version) (Decidable.not_not.mp headerWords)
    (by omega) (by omega) with ⟨packet, parsed, wellFormed, built⟩
  rw [told] at built
  have sizeOfBuild : packet.build.length = size := by
    rw [built, List.length_take]
    omega
  refine ⟨packet, parsed, built, ?_, wellFormed.payloadLength_eq, wellFormed.validate_iff, ?_, ?_⟩
  · rw [← sizeOfBuild, build, List.length_append, Ipv4.Header.length_toBytes]
    rfl
  · intro junk
    rw [← built]
    exact parse_build_append wellFormed junk
  · intro front first other
    rw [← built] at first other
    apply parse_of_cut wellFormed first
    apply Nat.lt_of_le_of_ne first.length_le
    intro whole
    exact other (first.eq_of_length whole)

end Packet

end VirtualNet
