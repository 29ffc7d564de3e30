import VirtualNet.Proofs.Packet.Grammar
import VirtualNet.Proofs.Tcp.Grammar
import VirtualNet.Proofs.Tcp.Segment

/-!
# Assembling again what was received

A packet that was read from the wire is assembled to its own octets again, up to what the assembler
computes anew and what reading drops. The checksums are computed anew; the low half of the octet
that holds the length of the TCP header is dropped. `Assembler.reassembles_canonical` says that
nothing else is lost.
-/

namespace VirtualNet

namespace Checksum

variable {front back : Bytes} {checksum checksum' : UInt16}

theorem store_inj : store checksum = store checksum' ↔ checksum = checksum' := by
  constructor
  · intro same
    have octets := List.cons.inj same
    rw [← load_of_store checksum, ← load_of_store checksum', octets.1, (List.cons.inj octets.2).1]
  · rintro rfl
    rfl

theorem append_store_inj :
    front ++ store checksum ++ back = front ++ store checksum' ++ back ↔ checksum = checksum' := by
  simp [store_inj]

/-- Two strings that differ in a stored checksum agree at every other octet. -/
theorem getElem?_append_store {index : Nat}
    (apart : index < front.length ∨ front.length + 2 ≤ index) :
    (front ++ store checksum ++ back)[index]? = (front ++ store checksum' ++ back)[index]? := by
  rcases apart with before | behind
  · simp [List.getElem?_append_left before]
  · have enough (stored : UInt16) : (front ++ store stored).length ≤ index := by
      simpa using behind
    rw [List.getElem?_append_right (enough checksum), List.getElem?_append_right (enough checksum')]
    simp

end Checksum

namespace Ipv4.Header

/-- A header is sealed as it stands exactly if it holds its checksum. -/
theorem toBytes_sealed_iff (header : Header) :
    header.sealed.toBytes = header.toBytes ↔ header.checksum = header.computeChecksum := by
  rcases header.toBytes_split with ⟨front, back, -, -, stands⟩
  have held := stands header.checksum
  rw [sealed, stands header.computeChecksum, held, Checksum.append_store_inj]
  exact eq_comm

/-- Sealing changes the two octets of the checksum and no other octet of the packet. -/
theorem getElem?_toBytes_sealed (header : Header) (payload : Bytes) {index : Nat}
    (apart : index ≠ 10 ∧ index ≠ 11) :
    (header.sealed.toBytes ++ payload)[index]? = (header.toBytes ++ payload)[index]? := by
  rcases header.toBytes_split with ⟨front, back, frontLength, -, stands⟩
  have held := stands header.checksum
  rw [sealed, stands header.computeChecksum, held]
  simp only [List.append_assoc _ back payload]
  apply Checksum.getElem?_append_store
  rw [frontLength, checksumOffset]
  omega

end Ipv4.Header

namespace Tcp

namespace Header

variable {bytes payload : Bytes} {header : Header} {source destination : Ipv4Address}

/-- What was read as a header writes the same octets, but for the low half of the thirteenth. -/
theorem toBytes_of_parse (parsed : parse bytes = .ok header) :
    header.dataOffset = 5 ∧ 20 ≤ bytes.length ∧
      (header.toBytes = bytes.take 20 ↔ bytes.getD 12 0 &&& 15 = 0) := by
  rcases kept_of_parse parsed with ⟨long, -, dataOffset, written⟩
  rw [written]
  exact ⟨dataOffset, long, kept_eq_take_iff long⟩

/-- A header that was read is finished to the octets it was read from exactly in this case. -/
theorem toBytes_finished_iff (parsed : parse bytes = .ok header) :
    (header.finished source destination payload).toBytes = bytes.take 20 ↔
      bytes.getD 12 0 &&& 15 = 0 ∧
        header.checksum = (header.finished source destination payload).checksum := by
  rcases toBytes_of_parse parsed with ⟨dataOffset, -, rewritten⟩
  constructor
  · intro same
    have offset : (header.finished source destination payload).dataOffset = 5 := dataOffset
    have again := parse_toBytes_append offset (bytes.drop 20)
    rw [same, List.take_append_drop, parsed] at again
    have unchanged : header = header.finished source destination payload := Except.ok.inj again
    rw [← unchanged] at same ⊢
    exact ⟨rewritten.mp same, rfl⟩
  · rintro ⟨clear, right⟩
    have unchanged : header.finished source destination payload = header :=
      congrArg (fun checksum => { header with checksum := checksum }) right.symm
    rw [unchanged]
    exact rewritten.mpr clear

end Header

namespace Segment

/-- The checksum of a segment is the one that its header is finished with. -/
theorem computeChecksum_withPayload {header : Header} {payload : Bytes}
    (source destination : Ipv4Address) (dataOffset : header.dataOffset = 5)
    (fits : 20 + payload.length ≤ 65535) :
    ((create header source destination).withPayload payload).computeChecksum =
      (header.finished source destination payload).checksum := by
  rw [computeChecksum_eq dataOffset]
  exact if_neg (Nat.not_lt.mpr fits)

end Segment

end Tcp

namespace Packet

/-- The header of a packet that tells its length is finished by its checksum alone. -/
theorem WellFormed.finished_eq {packet : Packet} (wellFormed : packet.WellFormed) :
    packet.header.finished packet.payload.length = packet.header.sealed := by
  have told : (20 + packet.payload.length).toUInt16 = packet.header.totalLength := by
    rw [← wellFormed.totalLength]
    simp
  rw [Ipv4.Header.finished, told]

theorem tcpSegment_eq_ok_iff {packet : Packet} {tcpHeader : Tcp.Header} {data : Bytes} :
    packet.tcpSegment = .ok (tcpHeader, data) ↔
      packet.header.protocol = .tcp ∧ Tcp.Header.parse packet.payload = .ok tcpHeader ∧
        data = packet.payload.drop 20 := by
  rw [tcpSegment]
  by_cases protocol : packet.header.protocol = .tcp
  · rw [if_neg (by simpa using protocol)]
    cases read : Tcp.Header.parse packet.payload with
    | error error => simp [bind, Except.bind]
    | ok header =>
        simp only [bind, Except.bind, pure, Except.pure, Except.ok.injEq, Prod.mk.injEq, protocol,
          true_and, Tcp.Header.wireLength]
        exact and_congr_right fun _ => eq_comm
  · simp [protocol]

end Packet

namespace Assembler

variable {bytes data : Bytes} {packet : Packet} {tcpHeader : Tcp.Header} {assembler : Assembler}

theorem assembleIp_of_wellFormed (wellFormed : packet.WellFormed)
    (room : packet.length ≤ assembler.mtu) :
    assembler.assembleIp packet.header packet.payload =
      .ok (packet.header.sealed.toBytes ++ packet.payload) := by
  have fits := wellFormed.fits
  rw [Packet.length, Ipv4.Header.wireLength] at room
  rw [assembleIp_eq, if_neg (by omega), ← wellFormed.finished_eq]
  rfl

theorem assembleTcp_of_wellFormed (wellFormed : packet.WellFormed)
    (carried : packet.tcpSegment = .ok (tcpHeader, data))
    (room : packet.length ≤ assembler.mtu) :
    assembler.assembleTcp packet.header tcpHeader data =
      .ok (packet.header.sealed.toBytes ++
        ((tcpHeader.finished packet.header.source packet.header.destination data).toBytes ++
          data)) := by
  rcases Packet.tcpSegment_eq_ok_iff.mp carried with ⟨protocol, read, rfl⟩
  rcases Tcp.Header.toBytes_of_parse read with ⟨-, long, -⟩
  have fits := wellFormed.fits
  rw [Packet.length, Ipv4.Header.wireLength] at room
  have wholeLength : 20 + (packet.payload.drop 20).length = packet.payload.length := by
    rw [List.length_drop, Nat.add_sub_of_le long]
  have unchanged : packet.header.withProtocol .tcp = packet.header := by
    rw [Ipv4.Header.withProtocol, ← protocol]
  rw [assembleTcp_eq, if_neg (by omega), if_neg (by omega), if_neg (by omega), Packet.build,
    header_tcpPacket, wholeLength, unchanged, wellFormed.finished_eq]
  rfl

/--
A packet that was read is assembled again to the octets that it was read from, up to its checksum,
and to exactly these octets if it holds the checksum that is computed for it. A TCP packet is
assembled again from its TCP header and its data: to exactly its octets if both checksums are the
computed ones and the low half of the octet that tells the length of the TCP header is clear.
-/
theorem reassembles_canonical (parsed : Packet.parse bytes = .ok packet)
    (room : packet.length ≤ assembler.mtu) :
    (∃ rebuilt, assembler.assemble packet.header packet.payload none = .ok rebuilt ∧
        (∀ index, index ≠ 10 ∧ index ≠ 11 →
          rebuilt[index]? = (bytes.take packet.length)[index]?) ∧
        (rebuilt = bytes.take packet.length ↔
          packet.header.checksum = packet.header.computeChecksum)) ∧
      ∀ tcpHeader data, packet.tcpSegment = .ok (tcpHeader, data) →
        ∃ rebuilt, assembler.assemble packet.header data (some tcpHeader) = .ok rebuilt ∧
          (rebuilt = bytes.take packet.length ↔
            packet.header.checksum = packet.header.computeChecksum ∧
              packet.payload.getD 12 0 &&& 15 = 0 ∧
              tcpHeader.checksum =
                ((Tcp.Segment.create tcpHeader packet.header.source
                  packet.header.destination).withPayload data).computeChecksum) := by
  rcases Packet.wellFormed_of_parse parsed with ⟨wellFormed, built, -⟩
  rw [← built, Packet.build]
  constructor
  · refine ⟨_, assembleIp_of_wellFormed wellFormed room, ?_, ?_⟩
    · intro index apart
      exact packet.header.getElem?_toBytes_sealed packet.payload apart
    · rw [List.append_left_inj]
      exact packet.header.toBytes_sealed_iff
  · intro tcpHeader data carried
    refine ⟨_, assembleTcp_of_wellFormed wellFormed carried room, ?_⟩
    rcases Packet.tcpSegment_eq_ok_iff.mp carried with ⟨-, read, rfl⟩
    rcases Tcp.Header.toBytes_of_parse read with ⟨dataOffset, long, -⟩
    have told := wellFormed.totalLength
    have bound := packet.header.totalLength.toNat_lt
    have fits : 20 + (packet.payload.drop 20).length ≤ 65535 := by
      rw [List.length_drop]
      omega
    have split := List.take_append_drop 20 packet.payload
    rw [Tcp.Segment.computeChecksum_withPayload _ _ dataOffset fits,
      ← Tcp.Header.toBytes_finished_iff read, ← packet.header.toBytes_sealed_iff]
    have sameLength :
        packet.header.sealed.toBytes.length = packet.header.toBytes.length := by
      simp
    constructor
    · intro same
      rcases List.append_inj same sameLength with ⟨ipHeaders, segments⟩
      have segments' := segments.trans split.symm
      exact ⟨ipHeaders, List.append_cancel_right segments'⟩
    · rintro ⟨ipHeaders, tcpHeaders⟩
      rw [ipHeaders, tcpHeaders, split]

/-- The reserved bits of a TCP header are kept with a payload and dropped with a segment. -/
theorem reassembles_but_reserved_bits :
    let bytes : Bytes := [69, 0, 0, 43, 0, 0, 0, 0, 16, 6, 41, 122, 192, 168, 0, 1, 192, 168, 0, 2,
      48, 57, 0, 80, 0, 0, 0, 0, 0, 0, 0, 0, 95, 0, 255, 255, 148, 155, 0, 0, 72, 105, 33, 7]
    ∃ packet tcpHeader rebuilt rebuilt',
      Packet.parse bytes = .ok packet ∧ packet.length ≤ Assembler.default.mtu ∧
        packet.tcpSegment = .ok (tcpHeader, [72, 105, 33]) ∧
        Assembler.default.assemble packet.header packet.payload none = .ok rebuilt ∧
        rebuilt = bytes.take 43 ∧
        Assembler.default.assemble packet.header [72, 105, 33] (some tcpHeader) = .ok rebuilt' ∧
        rebuilt' ≠ bytes.take 43 := by
  intro bytes
  let ipHeader : Ipv4.Header :=
    ⟨4, 5, 0, 43, 0, 0, 16, .tcp, 31273, ⟨192, 168, 0, 1⟩, ⟨192, 168, 0, 2⟩⟩
  let tcpHeader : Tcp.Header := ⟨12345, 80, 0, 0, 5, .none, 65535, 39828, 0⟩
  have parsed : Packet.parse bytes = .ok ⟨ipHeader, bytes.extract 20 43⟩ := by cbv
  have room : (Packet.mk ipHeader (bytes.extract 20 43)).length ≤ Assembler.default.mtu := by
    decide
  have carried : (Packet.mk ipHeader (bytes.extract 20 43)).tcpSegment =
      .ok (tcpHeader, [72, 105, 33]) := by cbv
  rcases reassembles_canonical parsed room with ⟨⟨rebuilt, plain, -, plainExactly⟩, segments⟩
  rcases segments tcpHeader [72, 105, 33] carried with ⟨rebuilt', segment, segmentExactly⟩
  refine ⟨_, tcpHeader, rebuilt, rebuilt', parsed, room, carried, plain, ?_, segment, ?_⟩
  · apply plainExactly.mpr
    cbv
  · intro same
    exact absurd (segmentExactly.mp same).2.1 (by decide)

end Assembler

end VirtualNet
