import VirtualNet.Proofs.Packet.Delivery

/-!
# Corrupted packets are refused

A receiver accepts a string if it parses and both checksums are right. No change of two adjacent
octets of an assembled TCP packet is accepted, other than the one that the checksum cannot see:
both octets turning from 0 to 255 or back.

The IPv4 checksum covers the first twenty octets, whatever they say, and guards the length that
decides where the payload ends. If they are as they were sent, the pseudo-header is as it was
sent, and the TCP checksum covers the rest. A change across the border is two changes of one octet.
-/

namespace VirtualNet

namespace Packet

/-- A receiver parses the string and finds both checksums right. -/
def Accepted (bytes : Bytes) : Prop :=
  ∃ received, parse bytes = .ok received ∧ received.ipChecksumRight = true ∧
    received.tcpChecksumRight = .ok true

/-- The IPv4 checksum of an accepted string covers its first twenty octets. -/
theorem verify_of_accepted {front back : Bytes} (headerLength : front.length = 20)
    (accepted : Accepted (front ++ back)) : Checksum.verify front = true := by
  rcases accepted with ⟨received, parsed, right, -⟩
  simp only [parse] at parsed
  cases read : Ipv4.Header.parse (front ++ back) with
  | error error =>
      rw [read] at parsed
      contradiction
  | ok header =>
      rw [read] at parsed
      cases parsed
      rcases Ipv4.Header.toBytes_of_parse read with ⟨rest, written⟩
      rcases List.append_inj written (by simp [headerLength]) with ⟨rfl, -⟩
      exact right

/-- What the TCP checksum of a packet covers beside its payload. -/
def pseudoHeader (packet : Packet) : Tcp.PseudoHeader :=
  ⟨packet.header.source, packet.header.destination, packet.payload.length.toUInt16⟩

theorem WellFormed.withPayload {packet : Packet} (wellFormed : packet.WellFormed)
    {payload : Bytes} (sameLength : payload.length = packet.payload.length) :
    ({ packet with payload := payload } : Packet).WellFormed :=
  ⟨wellFormed.version, wellFormed.headerWords, wellFormed.protocol,
    by rw [wellFormed.totalLength, sameLength]⟩

theorem WellFormed.length_covered_le {packet : Packet} (wellFormed : packet.WellFormed) :
    (packet.pseudoHeader.toBytes ++ packet.payload).length ≤ Checksum.maxLength := by
  have fits := wellFormed.fits
  simp [Checksum.maxLength]
  omega

/-- A segment that was read may still be too long for the pseudo-header to tell its length. -/
theorem tcpChecksumRight_eq_of_carried {packet : Packet} {segment : Tcp.Header × Bytes}
    (wireLength : 20 ≤ packet.payload.length) (carried : packet.tcpSegment = .ok segment) :
    packet.tcpChecksumRight =
      if 65535 < packet.payload.length then .error .invalidLength
      else .ok (Checksum.verify (packet.pseudoHeader.toBytes ++ packet.payload)) := by
  have headerLength : (packet.payload.take 20).length = 20 := by simp [wireLength]
  have wholeLength : 20 + (packet.payload.drop 20).length = packet.payload.length := by
    rw [List.length_drop, Nat.add_sub_of_le wireLength]
  rw [tcpChecksumRight, carried]
  simp only [bind, Except.bind, Tcp.Header.wireLength]
  rw [Tcp.verifyChecksum_eq _ _ headerLength, wholeLength, List.append_assoc,
    List.take_append_drop, pseudoHeader]

/-- The TCP checksum of a packet covers the pseudo-header and the payload as it was received. -/
theorem tcpChecksumRight_of_carried {packet : Packet} {segment : Tcp.Header × Bytes}
    (wellFormed : packet.WellFormed) (wireLength : 20 ≤ packet.payload.length)
    (carried : packet.tcpSegment = .ok segment) :
    packet.tcpChecksumRight =
      .ok (Checksum.verify (packet.pseudoHeader.toBytes ++ packet.payload)) := by
  have fits := wellFormed.fits
  rw [tcpChecksumRight_eq_of_carried wireLength carried, if_neg (by omega)]

theorem verify_of_tcpChecksumRight {packet : Packet} (wellFormed : packet.WellFormed)
    (wireLength : 20 ≤ packet.payload.length) (right : packet.tcpChecksumRight = .ok true) :
    Checksum.verify (packet.pseudoHeader.toBytes ++ packet.payload) = true := by
  cases carried : packet.tcpSegment with
  | error error =>
      rw [tcpChecksumRight, carried] at right
      contradiction
  | ok segment =>
      rw [tcpChecksumRight_of_carried wellFormed wireLength carried] at right
      exact Except.ok.inj right

/-- The TCP checksum of an accepted string covers the pseudo-header and the payload. -/
theorem verify_payload_of_accepted {packet : Packet} {payload : Bytes}
    (wellFormed : packet.WellFormed) (wireLength : 20 ≤ packet.payload.length)
    (sameLength : payload.length = packet.payload.length)
    (accepted : Accepted (packet.header.toBytes ++ payload)) :
    Checksum.verify (packet.pseudoHeader.toBytes ++ payload) = true := by
  rcases accepted with ⟨received, parsed, -, right⟩
  have wellFormed' := wellFormed.withPayload sameLength
  have same := parse_build_append wellFormed' []
  rw [List.append_nil, build, parsed] at same
  cases same
  have wireLength' : 20 ≤ payload.length := by omega
  have verified := verify_of_tcpChecksumRight wellFormed' wireLength' right
  rwa [pseudoHeader, sameLength] at verified

section

variable {packet : Packet} {front back : Bytes} {first second first' second' : UInt8}

/-- An accepted change of two adjacent octets of the header. -/
theorem eq_or_flipped_of_header {rest : Bytes}
    (stands : packet.header.toBytes = front ++ first :: second :: back)
    (accepted : Accepted packet.build)
    (accepted' : Accepted (front ++ first' :: second' :: back ++ rest)) :
    (first' = first ∧ second' = second) ∨ Checksum.Flipped first second first' second' := by
  have headerLength : (front ++ first :: second :: back).length = 20 := by
    rw [← stands, Ipv4.Header.length_toBytes]
  have headerLength' : (front ++ first' :: second' :: back).length = 20 := by
    rw [← headerLength]
    simp
  rw [build, stands] at accepted
  exact Checksum.eq_or_flipped_of_verify (by rw [headerLength]; decide)
    (verify_of_accepted headerLength accepted) (verify_of_accepted headerLength' accepted')

/-- An accepted change of two adjacent octets of the payload. -/
theorem eq_or_flipped_of_payload (wellFormed : packet.WellFormed)
    (wireLength : 20 ≤ packet.payload.length)
    (stands : packet.payload = front ++ first :: second :: back)
    (accepted : Accepted packet.build)
    (accepted' : Accepted (packet.header.toBytes ++ (front ++ first' :: second' :: back))) :
    (first' = first ∧ second' = second) ∨ Checksum.Flipped first second first' second' := by
  have sameLength : (front ++ first' :: second' :: back).length = packet.payload.length := by
    rw [stands]
    simp
  have before := verify_payload_of_accepted wellFormed wireLength rfl accepted
  have after := verify_payload_of_accepted wellFormed wireLength sameLength accepted'
  rw [stands, ← List.append_assoc] at before
  rw [← List.append_assoc] at after
  refine Checksum.eq_or_flipped_of_verify ?_ before after
  rw [List.append_assoc, ← stands]
  exact wellFormed.length_covered_le

/-- An accepted change of the last octet of the header and the first of the payload. -/
theorem eq_of_border (wellFormed : packet.WellFormed) (wireLength : 20 ≤ packet.payload.length)
    (headerStands : packet.header.toBytes = front ++ [first])
    (payloadStands : packet.payload = second :: back) (accepted : Accepted packet.build)
    (accepted' : Accepted (front ++ first' :: second' :: back)) :
    first' = first ∧ second' = second := by
  have headerLength : (front ++ [first]).length = 20 := by
    rw [← headerStands, Ipv4.Header.length_toBytes]
  have headerLength' : (front ++ [first']).length = 20 := by
    rw [← headerLength]
    simp
  have regroup : front ++ first' :: second' :: back = (front ++ [first']) ++ second' :: back := by
    simp
  rw [regroup] at accepted'
  have headerBefore : Checksum.verify (front ++ [first]) = true := by
    rw [build, headerStands] at accepted
    exact verify_of_accepted headerLength accepted
  rcases Checksum.eq_of_verify (by rw [headerLength]; decide) headerBefore (verify_of_accepted
      headerLength' accepted') with rfl
  have sameLength : (second' :: back).length = packet.payload.length := by
    rw [payloadStands]
    simp
  rw [← headerStands] at accepted'
  have before := verify_payload_of_accepted wellFormed wireLength rfl accepted
  have after := verify_payload_of_accepted wellFormed wireLength sameLength accepted'
  rw [payloadStands] at before
  refine ⟨rfl, Checksum.eq_of_verify ?_ before after⟩
  rw [← payloadStands]
  exact wellFormed.length_covered_le

/-- An accepted change of two adjacent octets of an accepted packet is no change, or flips both. -/
theorem eq_or_flipped_of_accepted (wellFormed : packet.WellFormed)
    (wireLength : 20 ≤ packet.payload.length) (accepted : Accepted packet.build)
    (stands : packet.build = front ++ first :: second :: back)
    (accepted' : Accepted (front ++ first' :: second' :: back)) :
    (first' = first ∧ second' = second) ∨ Checksum.Flipped first second first' second' := by
  rcases List.append_eq_append_iff.mp stands with
    ⟨between, frontStands, payloadStands⟩ | ⟨between, headerStands, backStands⟩
  · rw [frontStands, List.append_assoc] at accepted'
    exact eq_or_flipped_of_payload wellFormed wireLength payloadStands accepted accepted'
  -- The first octet belongs to the header, or the change starts where the payload does.
  · match between with
    | [] =>
        rw [List.append_nil] at headerStands
        rw [← headerStands] at accepted'
        have payloadStands : packet.payload = [] ++ first :: second :: back := backStands.symm
        exact eq_or_flipped_of_payload wellFormed wireLength payloadStands accepted accepted'
    | [last] =>
        rcases List.cons.inj backStands with ⟨rfl, payloadStands⟩
        exact Or.inl (eq_of_border wellFormed wireLength headerStands payloadStands.symm accepted
          accepted')
    | last :: next :: rest =>
        simp only [List.cons_append, List.cons.injEq] at backStands
        rcases backStands with ⟨rfl, rfl, rfl⟩
        exact eq_or_flipped_of_header headerStands accepted (by simpa using accepted')

/-- An accepted change of one octet of an accepted packet is no change. -/
theorem eq_of_accepted {octet octet' : UInt8} (wellFormed : packet.WellFormed)
    (wireLength : 20 ≤ packet.payload.length) (accepted : Accepted packet.build)
    (stands : packet.build = front ++ octet :: back)
    (accepted' : Accepted (front ++ octet' :: back)) : octet' = octet := by
  -- The octet is changed together with a neighbour that stays as it is.
  cases back with
  | cons next back =>
      rcases eq_or_flipped_of_accepted wellFormed wireLength accepted stands accepted' with
        ⟨same, -⟩ | flipped
      · exact same
      · exact absurd rfl (Checksum.ne_of_flipped flipped).2
  | nil =>
      rcases List.eq_nil_or_concat front with rfl | ⟨front, last, rfl⟩
      · have wholeLength := congrArg List.length stands
        simp [build] at wholeLength
        omega
      · rw [List.concat_append] at stands accepted'
        rcases eq_or_flipped_of_accepted wellFormed wireLength accepted stands accepted' with
          ⟨-, same⟩ | flipped
        · exact same
        · exact absurd rfl (Checksum.ne_of_flipped flipped).1

end

end Packet

namespace Assembler

variable {ipHeader : Ipv4.Header} {tcpHeader : Tcp.Header} {payload : Bytes}

theorem accepted_tcpPacket (version : ipHeader.version = 4)
    (headerWords : ipHeader.headerWords = 5) (dataOffset : tcpHeader.dataOffset = 5)
    (fits : 40 + payload.length ≤ 65535) :
    Packet.Accepted (tcpPacket ipHeader tcpHeader payload).build := by
  refine ⟨tcpPacket ipHeader tcpHeader payload, ?_, ipChecksumRight_tcpPacket,
    tcpChecksumRight_tcpPacket dataOffset fits⟩
  simpa using Packet.parse_build_append (wellFormed_tcpPacket version headerWords fits) []

/--
No receiver accepts an assembled TCP packet with two adjacent octets changed, unless the two flip
between 0 and 255 together, and none accepts it with one octet changed.
-/
theorem rejects_change_of_assembleTcp {assembler : Assembler} {packet : Bytes}
    (version : ipHeader.version = 4) (headerWords : ipHeader.headerWords = 5)
    (dataOffset : tcpHeader.dataOffset = 5)
    (assembled : assembler.assembleTcp ipHeader tcpHeader payload = .ok packet) :
    (∀ (front back : Bytes) (first second first' second' : UInt8),
      packet = front ++ first :: second :: back →
        front ++ first' :: second' :: back ≠ packet →
          ¬Checksum.Flipped first second first' second' →
            ¬Packet.Accepted (front ++ first' :: second' :: back)) ∧
      ∀ (front back : Bytes) (octet octet' : UInt8), packet = front ++ octet :: back →
        octet' ≠ octet → ¬Packet.Accepted (front ++ octet' :: back) := by
  rcases eq_build_of_assembleTcp assembled with ⟨fits, built⟩
  have wellFormed : (tcpPacket ipHeader tcpHeader payload).WellFormed :=
    wellFormed_tcpPacket version headerWords fits
  have wireLength : 20 ≤ (tcpPacket ipHeader tcpHeader payload).payload.length := by simp
  have accepted := accepted_tcpPacket version headerWords dataOffset fits
  constructor
  · intro front back first second first' second' stands changed notFlipped accepted'
    rcases Packet.eq_or_flipped_of_accepted wellFormed wireLength accepted
      (built.symm.trans stands) accepted' with ⟨rfl, rfl⟩ | flipped
    · exact changed stands.symm
    · exact notFlipped flipped
  · intro front back octet octet' stands changed accepted'
    exact changed (Packet.eq_of_accepted wellFormed wireLength accepted
      (built.symm.trans stands) accepted')

/-- The last octet of the addresses and the first of the ports, changed together. -/
theorem rejects_change_across_border :
    (Ipv4.Header.create .udp ⟨192, 168, 0, 1⟩ ⟨192, 168, 0, 2⟩).version = 4 ∧
      (Ipv4.Header.create .udp ⟨192, 168, 0, 1⟩ ⟨192, 168, 0, 2⟩).headerWords = 5 ∧
      (Tcp.Header.create 12345 80).dataOffset = 5 ∧
      Assembler.default.assembleTcp (.create .udp ⟨192, 168, 0, 1⟩ ⟨192, 168, 0, 2⟩)
          (.create 12345 80) [72, 105, 33] =
        .ok ([69, 0, 0, 43, 0, 0, 0, 0, 16, 6, 41, 122, 192, 168, 0, 1, 192, 168, 0] ++
          2 :: 48 :: [57, 0, 80, 0, 0, 0, 0, 0, 0, 0, 0, 80, 0, 255, 255, 148, 155, 0, 0,
            72, 105, 33]) ∧
      ¬Checksum.Flipped 2 48 1 49 ∧
      ¬Packet.Accepted
        ([69, 0, 0, 43, 0, 0, 0, 0, 16, 6, 41, 122, 192, 168, 0, 1, 192, 168, 0] ++
          1 :: 49 :: [57, 0, 80, 0, 0, 0, 0, 0, 0, 0, 0, 80, 0, 255, 255, 148, 155, 0, 0,
            72, 105, 33]) := by
  have assembled : Assembler.default.assembleTcp
      (.create .udp ⟨192, 168, 0, 1⟩ ⟨192, 168, 0, 2⟩) (.create 12345 80) [72, 105, 33] =
        .ok ([69, 0, 0, 43, 0, 0, 0, 0, 16, 6, 41, 122, 192, 168, 0, 1, 192, 168, 0] ++
          2 :: 48 :: [57, 0, 80, 0, 0, 0, 0, 0, 0, 0, 0, 80, 0, 255, 255, 148, 155, 0, 0,
            72, 105, 33]) := by
    cbv
  have notFlipped : ¬Checksum.Flipped 2 48 1 49 := by
    simp [Checksum.Flipped]
  exact ⟨rfl, rfl, rfl, assembled, notFlipped,
    (rejects_change_of_assembleTcp rfl rfl rfl assembled).1 _ _ _ _ _ _ rfl (by decide)
      notFlipped⟩

end Assembler

end VirtualNet
