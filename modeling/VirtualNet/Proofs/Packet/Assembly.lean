import VirtualNet.Packet.Assembler
import VirtualNet.Proofs.Ipv4.Header
import VirtualNet.Proofs.Tcp.Header

/-!
# What an assembler assembles

An assembled packet is the octets of a `Packet` whose header is finished: it tells the length of
the packet and holds its checksum. `Assembler.assembleIp_eq` and `Assembler.assembleTcp_eq` say
when there is such a packet and which one it is.
-/

namespace VirtualNet

namespace Ipv4.Header

/-- The sealed header in front of so many octets. -/
def finished (header : Header) (payloadLength : Nat) : Header :=
  { header with totalLength := (20 + payloadLength).toUInt16 }.sealed

@[simp]
theorem protocol_finished (header : Header) (payloadLength : Nat) :
    (header.finished payloadLength).protocol = header.protocol :=
  rfl

theorem toNat_totalLength_finished (header : Header) {payloadLength : Nat}
    (fits : 20 + payloadLength ≤ 65535) :
    (header.finished payloadLength).totalLength.toNat = 20 + payloadLength := by
  have bound : 20 + payloadLength < 65536 := by omega
  exact Nat.mod_eq_of_lt bound

theorem verifyChecksum_finished (header : Header) (payloadLength : Nat) :
    (header.finished payloadLength).verifyChecksum = true :=
  verifyChecksum_sealed _

end Ipv4.Header

namespace Assembler

/-- The packet that a header and a payload are assembled to. -/
def ipPacket (header : Ipv4.Header) (payload : Bytes) : Packet :=
  ⟨header.finished payload.length, payload⟩

theorem length_build_ipPacket (header : Ipv4.Header) (payload : Bytes) :
    (ipPacket header payload).build.length = 20 + payload.length := by
  simp [Packet.build, ipPacket]

theorem assembleIp_eq (assembler : Assembler) (header : Ipv4.Header) (payload : Bytes) :
    assembler.assembleIp header payload =
      if assembler.mtu < 20 + payload.length ∨ 65535 < 20 + payload.length then
        .error (.tooLarge (20 + payload.length) assembler.mtu)
      else .ok (ipPacket header payload).build := by
  have size : Ipv4.Header.wireLength + payload.length = 20 + payload.length := rfl
  rw [assembleIp, size, Ipv4.Header.withTotalLength]
  by_cases large : assembler.mtu < 20 + payload.length ∨ 65535 < 20 + payload.length
  · rw [if_pos large, if_pos large]
    rfl
  · rw [if_neg large, if_neg large]
    rfl

/-- An assembled packet fits its length field and the MTU. -/
theorem eq_build_of_assembleIp {assembler : Assembler} {header : Ipv4.Header}
    {payload bytes : Bytes} (assembled : assembler.assembleIp header payload = .ok bytes) :
    20 + payload.length ≤ 65535 ∧ 20 + payload.length ≤ assembler.mtu ∧
      bytes = (ipPacket header payload).build := by
  rw [assembleIp_eq] at assembled
  split at assembled
  · contradiction
  rename_i fits
  cases assembled
  exact ⟨by omega, by omega, rfl⟩

/--
The octets of a packet depend neither on the length and the checksum that its header held nor on
how its protocol is spelled.
-/
theorem build_ipPacket_of_stale {header : Ipv4.Header} {protocol : Ipv4.Protocol}
    (same : protocol.number = header.protocol.number) (payload : Bytes)
    (totalLength stale : UInt16) :
    (ipPacket { header with protocol := protocol, totalLength := totalLength, checksum := stale }
      payload).build = (ipPacket header payload).build := by
  simp [ipPacket, Packet.build, Ipv4.Header.finished, Ipv4.Header.sealed,
    Ipv4.Header.computeChecksum, Ipv4.Header.toBytes, same]

/-- The packet that two headers and a payload are assembled to. -/
def tcpPacket (ipHeader : Ipv4.Header) (tcpHeader : Tcp.Header) (payload : Bytes) : Packet :=
  ipPacket (ipHeader.withProtocol .tcp)
    ((tcpHeader.finished ipHeader.source ipHeader.destination payload).toBytes ++ payload)

theorem payload_tcpPacket (ipHeader : Ipv4.Header) (tcpHeader : Tcp.Header) (payload : Bytes) :
    (tcpPacket ipHeader tcpHeader payload).payload =
      (tcpHeader.finished ipHeader.source ipHeader.destination payload).toBytes ++ payload :=
  rfl

@[simp]
theorem length_payload_tcpPacket (ipHeader : Ipv4.Header) (tcpHeader : Tcp.Header)
    (payload : Bytes) :
    (tcpPacket ipHeader tcpHeader payload).payload.length = 20 + payload.length := by
  simp [payload_tcpPacket]

@[simp]
theorem header_tcpPacket (ipHeader : Ipv4.Header) (tcpHeader : Tcp.Header) (payload : Bytes) :
    (tcpPacket ipHeader tcpHeader payload).header =
      (ipHeader.withProtocol .tcp).finished (20 + payload.length) := by
  rw [← length_payload_tcpPacket ipHeader tcpHeader payload]
  rfl

theorem length_build_tcpPacket (ipHeader : Ipv4.Header) (tcpHeader : Tcp.Header)
    (payload : Bytes) :
    (tcpPacket ipHeader tcpHeader payload).build.length = 40 + payload.length := by
  have wholeLength : 20 + (20 + payload.length) = 40 + payload.length := by omega
  rw [← wholeLength, ← length_payload_tcpPacket ipHeader tcpHeader payload]
  exact length_build_ipPacket (ipHeader.withProtocol .tcp) _

/-- The MTU is judged first, then the length of the segment, then the length of the packet. -/
theorem assembleTcp_eq (assembler : Assembler) (ipHeader : Ipv4.Header) (tcpHeader : Tcp.Header)
    (payload : Bytes) :
    assembler.assembleTcp ipHeader tcpHeader payload =
      if assembler.mtu < 40 + payload.length then
        .error (.tooLarge (40 + payload.length) assembler.mtu)
      else if 65535 < 20 + payload.length then .error .invalidLength
      else if 65535 < 40 + payload.length then
        .error (.tooLarge (40 + payload.length) assembler.mtu)
      else .ok (tcpPacket ipHeader tcpHeader payload).build := by
  have size : Ipv4.Header.wireLength + Tcp.Header.wireLength + payload.length =
      40 + payload.length := rfl
  simp only [assembleTcp, size]
  by_cases large : assembler.mtu < 40 + payload.length
  · rw [if_pos large, if_pos large]
  rw [if_neg large, if_neg large, Tcp.Header.sealFor_eq]
  by_cases longSegment : 65535 < 20 + payload.length
  · rw [if_pos longSegment, if_pos longSegment]
    rfl
  rw [if_neg longSegment, if_neg longSegment]
  change assembler.assembleIp (ipHeader.withProtocol .tcp)
    (tcpPacket ipHeader tcpHeader payload).payload = _
  have wholeLength : 20 + (20 + payload.length) = 40 + payload.length := by omega
  rw [assembleIp_eq, length_payload_tcpPacket, wholeLength]
  simp only [large, false_or]
  rfl

/-- An assembled TCP packet fits its length field. -/
theorem eq_build_of_assembleTcp {assembler : Assembler} {ipHeader : Ipv4.Header}
    {tcpHeader : Tcp.Header} {payload bytes : Bytes}
    (assembled : assembler.assembleTcp ipHeader tcpHeader payload = .ok bytes) :
    40 + payload.length ≤ 65535 ∧ bytes = (tcpPacket ipHeader tcpHeader payload).build := by
  rw [assembleTcp_eq] at assembled
  split at assembled
  · contradiction
  split at assembled
  · contradiction
  split at assembled
  · contradiction
  rename_i fits
  cases assembled
  exact ⟨by omega, rfl⟩

theorem le_mtu_of_assembleTcp {assembler : Assembler} {ipHeader : Ipv4.Header}
    {tcpHeader : Tcp.Header} {payload bytes : Bytes}
    (assembled : assembler.assembleTcp ipHeader tcpHeader payload = .ok bytes) :
    40 + payload.length ≤ assembler.mtu := by
  rw [assembleTcp_eq] at assembled
  split at assembled
  · contradiction
  · omega

end Assembler

end VirtualNet
