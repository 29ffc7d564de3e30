import VirtualNet.Proofs.Packet.Assembly
import VirtualNet.Proofs.Tcp.Segment

/-!
# What an assembler admits

Three bounds limit a packet: the MTU, the 16-bit length of an IPv4 packet, and the 16-bit length of
a TCP segment. `admits_exactly_fitting` says which packets are assembled and which bound is named
for the others.

A TCP packet can be assembled in two ways: at once, or with its segment sealed first and carried by
a plain packet. The first way judges the MTU before the segment and the second way the segment
before the MTU. So they admit the same packets, and they refuse a packet alike unless both of these
bounds refuse it.
-/

namespace VirtualNet

namespace Assembler

section

variable {assembler : Assembler} {ipHeader : Ipv4.Header} {tcpHeader : Tcp.Header}
  {payload : Bytes}

theorem assembleIp_of_fits (fits : 20 + payload.length ≤ min assembler.mtu 65535) :
    assembler.assembleIp ipHeader payload = .ok (ipPacket ipHeader payload).build := by
  rw [assembleIp_eq]
  apply if_neg
  omega

theorem assembleIp_of_large (large : ¬20 + payload.length ≤ min assembler.mtu 65535) :
    assembler.assembleIp ipHeader payload =
      .error (.tooLarge (20 + payload.length) assembler.mtu) := by
  rw [assembleIp_eq]
  apply if_pos
  omega

theorem assembleTcp_of_fits (fits : 40 + payload.length ≤ min assembler.mtu 65535) :
    assembler.assembleTcp ipHeader tcpHeader payload =
      .ok (tcpPacket ipHeader tcpHeader payload).build := by
  rw [assembleTcp_eq, if_neg (by omega), if_neg (by omega)]
  apply if_neg
  omega

theorem assembleTcp_of_longSegment (admitted : 40 + payload.length ≤ assembler.mtu)
    (longSegment : 65515 < payload.length) :
    assembler.assembleTcp ipHeader tcpHeader payload = .error .invalidLength := by
  rw [assembleTcp_eq, if_neg (by omega)]
  apply if_pos
  omega

theorem assembleTcp_of_large (large : ¬40 + payload.length ≤ min assembler.mtu 65535)
    (named : ¬(40 + payload.length ≤ assembler.mtu ∧ 65515 < payload.length)) :
    assembler.assembleTcp ipHeader tcpHeader payload =
      .error (.tooLarge (40 + payload.length) assembler.mtu) := by
  rw [assembleTcp_eq]
  by_cases overMtu : assembler.mtu < 40 + payload.length
  · exact if_pos overMtu
  · rw [if_neg overMtu, if_neg (by omega)]
    apply if_pos
    omega

theorem assemble_ne_checksumNotZeroed (tcpHeader? : Option Tcp.Header) :
    assembler.assemble ipHeader payload tcpHeader? ≠ .error .checksumNotZeroed := by
  cases tcpHeader? with
  | none =>
      simp only [assemble, assembleIp_eq]
      split
      · simp
      · simp
  | some tcpHeader =>
      -- The header is cleared before its checksum is computed, so no stale checksum is judged.
      simp only [assemble, assembleTcp_eq]
      split
      · simp
      · split
        · simp
        · split
          · simp
          · simp

end

/--
A packet is assembled exactly if it fits the MTU and the length field of its header, and has the
length of its headers and its payload together. The refusal of a packet that does not fit tells this
length and the MTU, but for a TCP packet within the MTU whose segment does not fit the
pseudo-header. No packet is refused for a checksum that a header held.
-/
theorem admits_exactly_fitting (assembler : Assembler) (ipHeader : Ipv4.Header)
    (tcpHeader : Tcp.Header) (payload : Bytes) :
    (if 20 + payload.length ≤ min assembler.mtu 65535 then
        ∃ packet, assembler.assembleIp ipHeader payload = .ok packet ∧
          packet.length = 20 + payload.length
      else assembler.assembleIp ipHeader payload =
        .error (.tooLarge (20 + payload.length) assembler.mtu)) ∧
    (if 40 + payload.length ≤ min assembler.mtu 65535 then
        ∃ packet, assembler.assembleTcp ipHeader tcpHeader payload = .ok packet ∧
          packet.length = 40 + payload.length
      else if 40 + payload.length ≤ assembler.mtu ∧ 65515 < payload.length then
        assembler.assembleTcp ipHeader tcpHeader payload = .error .invalidLength
      else assembler.assembleTcp ipHeader tcpHeader payload =
        .error (.tooLarge (40 + payload.length) assembler.mtu)) ∧
    ∀ tcpHeader?, assembler.assemble ipHeader payload tcpHeader? ≠ .error .checksumNotZeroed := by
  refine ⟨?_, ?_, ?_⟩
  · split
    · rename_i fits
      exact ⟨_, assembleIp_of_fits fits, length_build_ipPacket ipHeader payload⟩
    · rename_i large
      exact assembleIp_of_large large
  · split
    · rename_i fits
      exact ⟨_, assembleTcp_of_fits fits, length_build_tcpPacket ipHeader tcpHeader payload⟩
    · rename_i large
      split
      · rename_i longSegment
        exact assembleTcp_of_longSegment longSegment.1 longSegment.2
      · rename_i named
        exact assembleTcp_of_large large named
  · intro tcpHeader?
    exact assemble_ne_checksumNotZeroed tcpHeader?

/-- The segment that a TCP packet carries, before it is sealed. -/
def segmentFor (ipHeader : Ipv4.Header) (tcpHeader : Tcp.Header) (payload : Bytes) : Tcp.Segment :=
  (Tcp.Segment.create tcpHeader ipHeader.source ipHeader.destination).withPayload payload

/-- A TCP packet whose segment is sealed first and then carried by a plain packet. -/
def assembleSegment (assembler : Assembler) (ipHeader : Ipv4.Header) (tcpHeader : Tcp.Header)
    (payload : Bytes) : Except PacketError Bytes := do
  let bytes ← (segmentFor ipHeader tcpHeader payload).sealed.1
  assembler.assembleIp (ipHeader.withProtocol .tcp) bytes

section

variable (assembler : Assembler) (ipHeader : Ipv4.Header) (tcpHeader : Tcp.Header)
  (payload : Bytes)

theorem assembleSegment_eq_ok_iff (packet : Bytes) :
    assembler.assembleSegment ipHeader tcpHeader payload = .ok packet ↔
      ∃ bytes, (segmentFor ipHeader tcpHeader payload).sealed.1 = .ok bytes ∧
        assembler.assembleIp (ipHeader.withProtocol .tcp) bytes = .ok packet := by
  rw [assembleSegment]
  cases (segmentFor ipHeader tcpHeader payload).sealed.1 with
  | error error => simp [bind, Except.bind]
  | ok bytes => simp [bind, Except.bind]

theorem sealed_segmentFor :
    (segmentFor ipHeader tcpHeader payload).sealed.1 =
      if 65535 < 20 + payload.length then .error .invalidLength
      else .ok (tcpPacket ipHeader tcpHeader payload).payload := by
  have length : (segmentFor ipHeader tcpHeader payload).payload.length = payload.length := rfl
  rw [Tcp.Segment.sealed_eq, length]
  by_cases longSegment : 65535 < 20 + payload.length
  · rw [if_pos longSegment, if_pos longSegment]
  · rw [if_neg longSegment, if_neg longSegment]
    rfl

theorem assembleSegment_eq :
    assembler.assembleSegment ipHeader tcpHeader payload =
      if 65535 < 20 + payload.length then .error .invalidLength
      else if assembler.mtu < 40 + payload.length ∨ 65535 < 40 + payload.length then
        .error (.tooLarge (40 + payload.length) assembler.mtu)
      else .ok (tcpPacket ipHeader tcpHeader payload).build := by
  rw [assembleSegment, sealed_segmentFor]
  by_cases longSegment : 65535 < 20 + payload.length
  · rw [if_pos longSegment, if_pos longSegment]
    rfl
  · rw [if_neg longSegment, if_neg longSegment]
    have wholeLength : 20 + (20 + payload.length) = 40 + payload.length := by omega
    -- The sealed segment is what the packet carries, and a plain packet carries it unchanged.
    change assembler.assembleIp (ipHeader.withProtocol .tcp)
      (tcpPacket ipHeader tcpHeader payload).payload = _
    rw [assembleIp_eq, length_payload_tcpPacket, wholeLength]
    rfl

variable {assembler payload} in
theorem assembleTcp_eq_assembleSegment
    (alike : 40 + payload.length ≤ assembler.mtu ∨ payload.length ≤ 65515) :
    assembler.assembleTcp ipHeader tcpHeader payload =
      assembler.assembleSegment ipHeader tcpHeader payload := by
  rw [assembleTcp_eq, assembleSegment_eq]
  by_cases longSegment : 65535 < 20 + payload.length
  · have withinMtu : ¬assembler.mtu < 40 + payload.length := by omega
    simp only [longSegment, withinMtu, if_true, if_false]
  · by_cases overMtu : assembler.mtu < 40 + payload.length
    · simp only [longSegment, overMtu, true_or, if_true, if_false]
    · simp only [longSegment, overMtu, false_or, if_false]

variable {assembler payload} in
theorem refusals_of_apart
    (apart : ¬(40 + payload.length ≤ assembler.mtu ∨ payload.length ≤ 65515)) :
    assembler.assembleTcp ipHeader tcpHeader payload =
        .error (.tooLarge (40 + payload.length) assembler.mtu) ∧
      assembler.assembleSegment ipHeader tcpHeader payload = .error .invalidLength := by
  have overMtu : assembler.mtu < 40 + payload.length := by omega
  have longSegment : 65535 < 20 + payload.length := by omega
  rw [assembleTcp_eq, assembleSegment_eq]
  exact ⟨if_pos overMtu, if_pos longSegment⟩

variable {assembler payload} in
theorem assembleTcp_eq_ok_iff (packet : Bytes) :
    assembler.assembleTcp ipHeader tcpHeader payload = .ok packet ↔
      assembler.assembleSegment ipHeader tcpHeader payload = .ok packet := by
  by_cases alike : 40 + payload.length ≤ assembler.mtu ∨ payload.length ≤ 65515
  · rw [assembleTcp_eq_assembleSegment ipHeader tcpHeader alike]
  · -- Where the ways name different bounds, neither gives a packet.
    rcases refusals_of_apart ipHeader tcpHeader alike with ⟨atOnce, bySegment⟩
    simp [atOnce, bySegment]

end

/--
Both ways to a TCP packet admit the same packets. They refuse a packet for the same reason as well
if it is within the MTU or its segment fits the pseudo-header; otherwise each names the bound that
it judges first.
-/
theorem assembles_alike_by_segment (assembler : Assembler) (ipHeader : Ipv4.Header)
    (tcpHeader : Tcp.Header) (payload : Bytes) :
    let segment :=
      (Tcp.Segment.create tcpHeader ipHeader.source ipHeader.destination).withPayload payload
    (∀ packet, assembler.assembleTcp ipHeader tcpHeader payload = .ok packet ↔
      ∃ bytes, segment.sealed.1 = .ok bytes ∧
        assembler.assembleIp (ipHeader.withProtocol .tcp) bytes = .ok packet) ∧
    if 40 + payload.length ≤ assembler.mtu ∨ payload.length ≤ 65515 then
      assembler.assembleTcp ipHeader tcpHeader payload =
        assembler.assembleSegment ipHeader tcpHeader payload
    else
      assembler.assembleTcp ipHeader tcpHeader payload =
          .error (.tooLarge (40 + payload.length) assembler.mtu) ∧
        assembler.assembleSegment ipHeader tcpHeader payload = .error .invalidLength := by
  intro segment
  constructor
  · intro packet
    exact (assembleTcp_eq_ok_iff ipHeader tcpHeader packet).trans
      (assembleSegment_eq_ok_iff assembler ipHeader tcpHeader payload packet)
  · split
    · rename_i alike
      exact assembleTcp_eq_assembleSegment ipHeader tcpHeader alike
    · rename_i apart
      exact refusals_of_apart ipHeader tcpHeader apart

end Assembler

end VirtualNet
