import VirtualNet.Proofs.Packet.Corruption
import VirtualNet.Proofs.Packet.Indexed

/-!
# Inspecting any packet

A packet need not have been received: one that was read from its serialized form may have any header
and a payload of any length. Its TCP segment and the checksum of that segment are inspected without
the reader breaking off, and they are refused alike but for one case: a segment that was read may be
too long for the pseudo-header. No packet that was parsed is.
-/

namespace VirtualNet

namespace Packet

variable {packet : Packet}

theorem tcpSegment_of_tcp (protocol : packet.header.protocol = .tcp) :
    packet.tcpSegment =
      match Tcp.Header.parse packet.payload with
      | .error error => .error error
      | .ok header => .ok (header, packet.payload.drop 20) := by
  rw [tcpSegment, if_neg (not_not_intro protocol)]
  cases Tcp.Header.parse packet.payload <;> rfl

/-- The checks of a segment, in order. -/
theorem tcpSegment_checks (packet : Packet) :
    if packet.header.protocol ≠ .tcp then
      packet.tcpSegment = .error (.invalidField (.notTcp packet.header.protocol.number))
    else if packet.payload.length < 20 then packet.tcpSegment = .error .invalidLength
    else if packet.payload.getD 12 0 >>> 4 ≠ 5 then
      packet.tcpSegment = .error .invalidHeaderFormat
    else ∃ header, packet.tcpSegment = .ok (header, packet.payload.drop 20) ∧
      header.toBytes = (packet.payload.take 20).modify 12 (· &&& 0xF0) := by
  by_cases protocol : packet.header.protocol = .tcp
  · have checks := Tcp.Header.parse_checks packet.payload
    rw [if_neg (not_not_intro protocol), tcpSegment_of_tcp protocol]
    by_cases short : packet.payload.length < 20
    · rw [if_pos short] at checks ⊢
      rw [checks]
    · by_cases words : packet.payload.getD 12 0 >>> 4 ≠ 5
      · rw [if_neg short, if_pos words] at checks ⊢
        rw [checks]
      · rw [if_neg short, if_neg words] at checks ⊢
        rcases checks with ⟨header, read, written⟩
        exact ⟨header, by rw [read], written⟩
  · rw [if_pos protocol, tcpSegment, if_pos protocol]

/-- The checksum is refused as the segment is, or because the segment is too long. -/
theorem tcpChecksumRight_checks (packet : Packet) :
    packet.tcpChecksumRight =
      match packet.tcpSegment with
      | .error error => .error error
      | .ok _ =>
        if 65535 < packet.payload.length then .error .invalidLength
        else .ok (Checksum.verify (packet.pseudoHeader.toBytes ++ packet.payload)) := by
  cases carried : packet.tcpSegment with
  | error error =>
      rw [tcpChecksumRight, carried]
      rfl
  | ok segment =>
      rcases tcpSegment_eq_ok_iff.mp carried with ⟨-, read, -⟩
      exact tcpChecksumRight_eq_of_carried (Tcp.Header.kept_of_parse read).1 carried

/-- A packet that was parsed is refused alike by both, since its payload is not too long. -/
theorem refused_alike_of_parse {bytes : Bytes} (parsed : parse bytes = .ok packet)
    (error : PacketError) :
    packet.tcpSegment = .error error ↔ packet.tcpChecksumRight = .error error := by
  have fits : ¬65535 < packet.payload.length := by
    have wholeFits := (wellFormed_of_parse parsed).1.fits
    omega
  rw [tcpChecksumRight_checks]
  cases packet.tcpSegment with
  | error cause => simp only [Except.error.injEq]
  | ok segment => simp only [if_neg fits, reduceCtorEq]

/--
Inspecting a packet never breaks off, whatever its header and its payload are. Its segment is
refused for another protocol than TCP, also for one that only has TCP's number, then for its length,
then for the length that its header tells, and otherwise it is split behind its header. The checksum
is refused in the same way, and also where the segment was read but is too long for the
pseudo-header; otherwise it says whether pseudo-header and payload verify. For packets that were
parsed both views are refused together.
-/
theorem inspection_never_breaks_off (packet : Packet) :
    (Indexed.tcpSegment packet).run = .ok packet.tcpSegment ∧
    (Indexed.tcpChecksumRight packet).run = .ok packet.tcpChecksumRight ∧
    (if packet.header.protocol ≠ .tcp then
        packet.tcpSegment = .error (.invalidField (.notTcp packet.header.protocol.number))
      else if packet.payload.length < 20 then packet.tcpSegment = .error .invalidLength
      else if packet.payload.getD 12 0 >>> 4 ≠ 5 then
        packet.tcpSegment = .error .invalidHeaderFormat
      else ∃ header, packet.tcpSegment = .ok (header, packet.payload.drop 20) ∧
        header.toBytes = (packet.payload.take 20).modify 12 (· &&& 0xF0)) ∧
    (packet.tcpChecksumRight =
      match packet.tcpSegment with
      | .error error => .error error
      | .ok _ =>
        if 65535 < packet.payload.length then .error .invalidLength
        else .ok (Checksum.verify
          (packet.header.source.octets ++ packet.header.destination.octets ++ [0, 6] ++
            Bytes.ofWord16 packet.payload.length.toUInt16 ++ packet.payload))) ∧
    ∀ bytes, parse bytes = .ok packet → ∀ error,
      (packet.tcpSegment = .error error ↔ packet.tcpChecksumRight = .error error) :=
  ⟨Indexed.run_tcpSegment packet, Indexed.run_tcpChecksumRight packet, tcpSegment_checks packet,
    tcpChecksumRight_checks packet, fun _ parsed => refused_alike_of_parse parsed⟩

/--
A segment that is too long for its pseudo-header is split and its checksum refused, and a protocol
that only has TCP's number is refused by both.
-/
theorem inspection_of_unparsed_packets :
    let header : Ipv4.Header := .create .tcp ⟨192, 168, 0, 1⟩ ⟨192, 168, 0, 2⟩
    let tcpHeader := Tcp.Header.create 12345 80
    let data : Bytes := List.replicate 65516 0
    let long : Packet := ⟨header, tcpHeader.toBytes ++ data⟩
    let spelled : Packet := ⟨header.withProtocol (.other 6), tcpHeader.toBytes⟩
    long.tcpSegment = .ok (tcpHeader, data) ∧ long.tcpChecksumRight = .error .invalidLength ∧
      spelled.tcpSegment = .error (.invalidField (.notTcp 6)) ∧
      spelled.tcpChecksumRight = .error (.invalidField (.notTcp 6)) := by
  intro header tcpHeader data long spelled
  have carried : long.tcpSegment = .ok (tcpHeader, data) := tcpSegment_eq_ok rfl rfl rfl
  have tooLong : 65535 < long.payload.length := by
    rw [List.length_append, List.length_replicate, Tcp.Header.length_toBytes]
    decide
  rcases inspection_never_breaks_off long with ⟨-, -, -, answered, -⟩
  rcases inspection_never_breaks_off spelled with ⟨-, -, refused, refused', -⟩
  simp only [carried, if_pos tooLong] at answered
  rw [if_pos (by decide)] at refused
  rw [refused] at refused'
  exact ⟨carried, answered, refused, refused'⟩

end Packet

end VirtualNet
