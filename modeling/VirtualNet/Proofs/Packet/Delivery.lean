import VirtualNet.Proofs.Packet.Assembly

/-!
# Assembled packets survive the wire

A packet whose header tells its length is read back from its octets, whatever follows them. An
assembled TCP packet is such a packet; it passes every check of the receiver and splits into the
TCP header and the payload that it was made of.
-/

namespace VirtualNet

namespace Packet

/-- The header of a packet is one that is read from the wire, and it tells the packet's length. -/
structure WellFormed (packet : Packet) : Prop where
  version : packet.header.version = 4
  headerWords : packet.header.headerWords = 5
  protocol : packet.header.protocol.canonical = packet.header.protocol
  totalLength : packet.header.totalLength.toNat = 20 + packet.payload.length

/-- A packet that tells its length is no longer than its header can tell. -/
theorem WellFormed.fits {packet : Packet} (wellFormed : packet.WellFormed) :
    20 + packet.payload.length ≤ 65535 := by
  rw [← wellFormed.totalLength]
  exact Nat.le_of_lt_succ packet.header.totalLength.toNat_lt

theorem parse_build_append {packet : Packet} (wellFormed : packet.WellFormed) (junk : Bytes) :
    parse (packet.build ++ junk) = .ok packet := by
  rcases packet with ⟨header, payload⟩
  rcases wellFormed with ⟨version, headerWords, protocol, totalLength⟩
  simp only at version headerWords protocol totalLength
  have parsed : Ipv4.Header.parse (header.toBytes ++ (payload ++ junk)) = .ok header := by
    rw [Ipv4.Header.parse_toBytes_append version headerWords (by omega) (by simp; omega), protocol]
  have cut : ((header.toBytes ++ (payload ++ junk)).take header.totalLength.toNat).drop 20 =
      payload := by
    rw [totalLength, ← List.append_assoc, List.take_left' (by simp), List.drop_left' (by simp)]
  simp only [parse, build, List.append_assoc, parsed]
  exact congrArg (fun received => Except.ok (Packet.mk header received)) cut

theorem validate_eq_ok_iff (packet : Packet) :
    packet.validate = .ok () ↔ packet.header.totalLength.toNat = 20 + packet.payload.length ∧
      packet.ipChecksumRight = true := by
  rw [validate, length, Ipv4.Header.wireLength]
  constructor
  · intro valid
    split at valid
    · contradiction
    rename_i told
    split at valid
    · contradiction
    rename_i right
    exact ⟨(Decidable.not_not.mp told).symm, by simpa using right⟩
  · rintro ⟨told, right⟩
    simp [told, right]

theorem validate_eq_ok {packet : Packet} (wellFormed : packet.WellFormed)
    (right : packet.ipChecksumRight = true) : packet.validate = .ok () :=
  packet.validate_eq_ok_iff.mpr ⟨wellFormed.totalLength, right⟩

theorem tcpSegment_eq_ok {packet : Packet} {tcpHeader : Tcp.Header} {payload : Bytes}
    (protocol : packet.header.protocol = .tcp) (dataOffset : tcpHeader.dataOffset = 5)
    (carried : packet.payload = tcpHeader.toBytes ++ payload) :
    packet.tcpSegment = .ok (tcpHeader, payload) := by
  have data : (tcpHeader.toBytes ++ payload).drop Tcp.Header.wireLength = payload :=
    List.drop_left' rfl
  rw [tcpSegment, if_neg (by simpa using protocol), carried,
    Tcp.Header.parse_toBytes_append dataOffset, data]
  rfl

theorem tcpChecksumRight_eq {packet : Packet} {tcpHeader : Tcp.Header} {payload : Bytes}
    (protocol : packet.header.protocol = .tcp) (dataOffset : tcpHeader.dataOffset = 5)
    (carried : packet.payload = tcpHeader.toBytes ++ payload) :
    packet.tcpChecksumRight = Tcp.verifyChecksum packet.header.source packet.header.destination
      tcpHeader.toBytes payload := by
  have front : (tcpHeader.toBytes ++ payload).take Tcp.Header.wireLength = tcpHeader.toBytes :=
    List.take_left' rfl
  have data : (tcpHeader.toBytes ++ payload).drop Tcp.Header.wireLength = payload :=
    List.drop_left' rfl
  rw [tcpChecksumRight, tcpSegment_eq_ok protocol dataOffset carried, carried, front, data]
  simp only [bind, Except.bind]

end Packet

namespace Assembler

section Plain

variable {header : Ipv4.Header} {payload : Bytes}

theorem wellFormed_ipPacket (version : header.version = 4) (headerWords : header.headerWords = 5)
    (protocol : header.protocol.canonical = header.protocol)
    (fits : 20 + payload.length ≤ 65535) : (ipPacket header payload).WellFormed where
  version := version
  headerWords := headerWords
  protocol := protocol
  totalLength := Ipv4.Header.toNat_totalLength_finished header fits

/-- What an assembled packet is read as. -/
def receivedPacket (header : Ipv4.Header) (payload : Bytes) : Packet :=
  ipPacket (header.withProtocol header.protocol.canonical) payload

theorem build_receivedPacket (header : Ipv4.Header) (payload : Bytes) :
    (receivedPacket header payload).build = (ipPacket header payload).build := by
  have same : header.protocol.canonical.number = header.protocol.number :=
    Ipv4.Protocol.number_ofNumber header.protocol.number
  exact build_ipPacket_of_stale same payload header.totalLength header.checksum

theorem wellFormed_receivedPacket (version : header.version = 4)
    (headerWords : header.headerWords = 5) (fits : 20 + payload.length ≤ 65535) :
    (receivedPacket header payload).WellFormed := by
  let spelled := header.withProtocol header.protocol.canonical
  have protocol : spelled.protocol.canonical = spelled.protocol := by
    simp [spelled, Ipv4.Header.withProtocol, Ipv4.Protocol.canonical]
  exact wellFormed_ipPacket version headerWords protocol fits

theorem ipChecksumRight_ipPacket : (ipPacket header payload).ipChecksumRight = true :=
  Ipv4.Header.verifyChecksum_finished header payload.length

/--
An assembled packet is received with its payload and its header, whatever follows it: the header
tells the length of the packet, holds the checksum that is computed for it, and names the protocol
of its number. Packets whose headers differ in these three fields only are the same octets.
-/
theorem receives_of_assemble_ip {assembler : Assembler} {packet : Bytes}
    (version : header.version = 4) (headerWords : header.headerWords = 5)
    (assembled : assembler.assembleIp header payload = .ok packet) :
    packet.length = 20 + payload.length ∧
      (∀ junk : Bytes, ∃ received : Packet,
        Packet.parse (packet ++ junk) = .ok received ∧
          received.payload = payload ∧
          received.build = packet ∧
          received.validate = .ok () ∧
          received.header.totalLength.toNat = packet.length ∧
          received.header = { header with
            protocol := Ipv4.Protocol.ofNumber header.protocol.number
            totalLength := received.header.totalLength
            checksum := received.header.computeChecksum }) ∧
      ∀ (protocol : Ipv4.Protocol) (totalLength stale : UInt16),
        protocol.number = header.protocol.number →
          assembler.assembleIp
            { header with protocol := protocol, totalLength := totalLength, checksum := stale }
            payload = .ok packet := by
  rcases eq_build_of_assembleIp assembled with ⟨fits, -, rfl⟩
  have wellFormed : (receivedPacket header payload).WellFormed :=
    wellFormed_receivedPacket version headerWords fits
  have built := build_receivedPacket header payload
  have wholeLength : (ipPacket header payload).build.length = 20 + payload.length := by
    simp [Packet.build, ipPacket]
  refine ⟨wholeLength, ?_, ?_⟩
  · intro junk
    rw [← built]
    refine ⟨receivedPacket header payload, Packet.parse_build_append wellFormed junk, rfl, rfl,
      Packet.validate_eq_ok wellFormed ipChecksumRight_ipPacket, ?_, rfl⟩
    rw [built, wholeLength]
    exact wellFormed.totalLength
  · intro protocol totalLength stale same
    rw [assembleIp_eq] at assembled ⊢
    rw [build_ipPacket_of_stale same]
    exact assembled

/-- A bare number of TCP comes back as TCP, behind stale fields. -/
theorem receives_assembled_bare_number :
    ({ Ipv4.Header.create (.other 6) ⟨10, 0, 0, 1⟩ ⟨10, 0, 0, 2⟩ with
        totalLength := 9, checksum := 7 } : Ipv4.Header).version = 4 ∧
      ({ Ipv4.Header.create (.other 6) ⟨10, 0, 0, 1⟩ ⟨10, 0, 0, 2⟩ with
        totalLength := 9, checksum := 7 } : Ipv4.Header).headerWords = 5 ∧
      ∃ packet : Bytes,
        Assembler.assembleIp ⟨23⟩ { Ipv4.Header.create (.other 6) ⟨10, 0, 0, 1⟩ ⟨10, 0, 0, 2⟩ with
          totalLength := 9, checksum := 7 } [72, 105, 33] = .ok packet ∧
        packet.length = 23 ∧
        Assembler.assembleIp ⟨23⟩ (.create .tcp ⟨10, 0, 0, 1⟩ ⟨10, 0, 0, 2⟩) [72, 105, 33] =
          .ok packet ∧
        ∃ received : Packet,
          Packet.parse (packet ++ [255]) = .ok received ∧
            received.payload = [72, 105, 33] ∧
            received.build = packet ∧
            received.validate = .ok () ∧
            received.header.protocol = .tcp := by
  have assembled : Assembler.assembleIp ⟨23⟩
      { Ipv4.Header.create (.other 6) ⟨10, 0, 0, 1⟩ ⟨10, 0, 0, 2⟩ with
        totalLength := 9, checksum := 7 } [72, 105, 33] =
        .ok [69, 0, 0, 23, 0, 0, 0, 0, 16, 6, 150, 223, 10, 0, 0, 1, 10, 0, 0, 2, 72, 105, 33] := by
    cbv
  rcases receives_of_assemble_ip rfl rfl assembled with ⟨wholeLength, received, same⟩
  rcases received [255] with ⟨packet, parsed, payload, built, valid, -, header⟩
  refine ⟨rfl, rfl, _, assembled, wholeLength, same .tcp 20 0 rfl, packet, parsed, payload, built,
    valid, ?_⟩
  rw [header]
  rfl

end Plain

variable {ipHeader : Ipv4.Header} {tcpHeader : Tcp.Header} {payload : Bytes}

theorem ipChecksumRight_tcpPacket :
    (tcpPacket ipHeader tcpHeader payload).ipChecksumRight = true :=
  ipChecksumRight_ipPacket

theorem protocol_tcpPacket : (tcpPacket ipHeader tcpHeader payload).header.protocol = .tcp := by
  rw [header_tcpPacket, Ipv4.Header.protocol_finished, Ipv4.Header.withProtocol]

theorem tcpChecksumRight_tcpPacket (dataOffset : tcpHeader.dataOffset = 5)
    (fits : 40 + payload.length ≤ 65535) :
    (tcpPacket ipHeader tcpHeader payload).tcpChecksumRight = .ok true := by
  have carried := payload_tcpPacket ipHeader tcpHeader payload
  rw [Packet.tcpChecksumRight_eq protocol_tcpPacket (by simpa using dataOffset) carried,
    header_tcpPacket]
  exact Tcp.Header.verifyChecksum_finished _ _ _ (by omega)

theorem tcpSegment_tcpPacket (dataOffset : tcpHeader.dataOffset = 5) :
    (tcpPacket ipHeader tcpHeader payload).tcpSegment =
      .ok (tcpHeader.finished ipHeader.source ipHeader.destination payload, payload) := by
  have carried := payload_tcpPacket ipHeader tcpHeader payload
  exact Packet.tcpSegment_eq_ok protocol_tcpPacket (by simpa using dataOffset) carried

theorem wellFormed_tcpPacket (version : ipHeader.version = 4)
    (headerWords : ipHeader.headerWords = 5) (fits : 40 + payload.length ≤ 65535) :
    (tcpPacket ipHeader tcpHeader payload).WellFormed := by
  have segmentFits : 20 + (tcpPacket ipHeader tcpHeader payload).payload.length ≤ 65535 := by
    rw [length_payload_tcpPacket]
    omega
  exact wellFormed_ipPacket version headerWords rfl segmentFits

/-- What the assembler fills in does not depend on what the headers held there. -/
theorem tcpPacket_of_stale (protocol : Ipv4.Protocol) (totalLength staleIp staleTcp : UInt16) :
    tcpPacket
        { ipHeader with protocol := protocol, totalLength := totalLength, checksum := staleIp }
        { tcpHeader with checksum := staleTcp } payload =
      tcpPacket ipHeader tcpHeader payload :=
  rfl

/--
An assembled TCP packet is received as it was sent, whatever follows it, and is the same for all
headers that differ in what the assembler fills in.
-/
theorem receives_of_assemble_tcp {assembler : Assembler} {packet : Bytes}
    (version : ipHeader.version = 4) (headerWords : ipHeader.headerWords = 5)
    (dataOffset : tcpHeader.dataOffset = 5)
    (assembled : assembler.assemble ipHeader payload (some tcpHeader) = .ok packet) :
    packet.length = 40 + payload.length ∧
      (∀ junk : Bytes, ∃ (received : Packet) (ipChecksum tcpChecksum : UInt16),
        Packet.parse (packet ++ junk) = .ok received ∧
          received.validate = .ok () ∧
          received.ipChecksumRight = true ∧
          received.tcpChecksumRight = .ok true ∧
          received.build = packet ∧
          received.header.totalLength.toNat = packet.length ∧
          received.header = { ipHeader with
            protocol := .tcp
            totalLength := received.header.totalLength
            checksum := ipChecksum } ∧
          received.tcpSegment = .ok ({ tcpHeader with checksum := tcpChecksum }, payload)) ∧
      ∀ (protocol : Ipv4.Protocol) (totalLength staleIp staleTcp : UInt16),
        assembler.assemble
          { ipHeader with protocol := protocol, totalLength := totalLength, checksum := staleIp }
          payload (some { tcpHeader with checksum := staleTcp }) = .ok packet := by
  rcases eq_build_of_assembleTcp assembled with ⟨fits, rfl⟩
  have wellFormed : (tcpPacket ipHeader tcpHeader payload).WellFormed :=
    wellFormed_tcpPacket version headerWords fits
  have told := wellFormed.totalLength
  have carried := length_payload_tcpPacket ipHeader tcpHeader payload
  have wholeLength : (tcpPacket ipHeader tcpHeader payload).build.length = 40 + payload.length := by
    simp [Packet.build]
    omega
  refine ⟨wholeLength, ?_, ?_⟩
  · intro junk
    refine ⟨tcpPacket ipHeader tcpHeader payload,
      (tcpPacket ipHeader tcpHeader payload).header.checksum,
      (tcpHeader.finished ipHeader.source ipHeader.destination payload).checksum,
      Packet.parse_build_append wellFormed junk,
      Packet.validate_eq_ok wellFormed ipChecksumRight_tcpPacket, ipChecksumRight_tcpPacket,
      tcpChecksumRight_tcpPacket dataOffset fits, rfl, ?_, rfl, tcpSegment_tcpPacket dataOffset⟩
    omega
  · intro protocol totalLength staleIp staleTcp
    rw [assemble, assembleTcp_eq] at assembled ⊢
    rw [tcpPacket_of_stale]
    exact assembled

theorem receives_assembled_greeting :
    (Ipv4.Header.create .udp ⟨192, 168, 0, 1⟩ ⟨192, 168, 0, 2⟩).version = 4 ∧
      (Ipv4.Header.create .udp ⟨192, 168, 0, 1⟩ ⟨192, 168, 0, 2⟩).headerWords = 5 ∧
      (Tcp.Header.create 12345 80).dataOffset = 5 ∧
      ∃ packet : Bytes,
        Assembler.default.assemble (.create .udp ⟨192, 168, 0, 1⟩ ⟨192, 168, 0, 2⟩)
          [72, 105, 33] (some (.create 12345 80)) = .ok packet ∧
        packet.length = 43 ∧
        ∃ (received : Packet) (ipChecksum tcpChecksum : UInt16),
          Packet.parse (packet ++ [255]) = .ok received ∧
            received.validate = .ok () ∧
            received.ipChecksumRight = true ∧
            received.tcpChecksumRight = .ok true ∧
            received.build = packet ∧
            received.header.totalLength.toNat = packet.length ∧
            received.header = { Ipv4.Header.create .tcp ⟨192, 168, 0, 1⟩ ⟨192, 168, 0, 2⟩ with
              totalLength := received.header.totalLength
              checksum := ipChecksum } ∧
            received.tcpSegment =
              .ok ({ Tcp.Header.create 12345 80 with checksum := tcpChecksum }, [72, 105, 33]) := by
  have assembled : Assembler.default.assemble
      (.create .udp ⟨192, 168, 0, 1⟩ ⟨192, 168, 0, 2⟩) [72, 105, 33] (some (.create 12345 80)) =
        .ok [69, 0, 0, 43, 0, 0, 0, 0, 16, 6, 41, 122, 192, 168, 0, 1, 192, 168, 0, 2,
          48, 57, 0, 80, 0, 0, 0, 0, 0, 0, 0, 0, 80, 0, 255, 255, 148, 155, 0, 0,
          72, 105, 33] := by
    cbv
  rcases receives_of_assemble_tcp rfl rfl rfl assembled with ⟨wholeLength, received, -⟩
  exact ⟨rfl, rfl, rfl, _, assembled, wholeLength, received [255]⟩

end Assembler

end VirtualNet
