import VirtualNet.Proofs.Packet.Grammar

/-!
# Which values survive the wire

A header or a packet may hold any field values, and most of them are not read back: the version and
the length of a header share an octet in which their bits overlap, a total length need not be that
of the packet, and a bare protocol number may spell a known protocol. `survives_exactly` says which
values are read back as they were.
-/

namespace VirtualNet

namespace Ipv4

namespace Protocol

/-- A protocol is the canonical one of its number unless it spells a known one as a number. -/
theorem canonical_eq_self_iff (protocol : Protocol) :
    protocol.canonical = protocol ↔ protocol ∉ [.other 0, .other 1, .other 6, .other 17] := by
  cases protocol with
  | test => decide
  | icmp => decide
  | tcp => decide
  | udp => decide
  | other number =>
      simp only [canonical, ofNumber, Protocol.number]
      by_cases test : number = 0
      · simp [test]
      by_cases icmp : number = 1
      · simp [icmp]
      by_cases tcp : number = 6
      · simp [tcp]
      by_cases udp : number = 17
      · simp [udp]
      simp [test, icmp, tcp, udp]

end Protocol

namespace Header

variable {header read : Header} {pad : Bytes}

theorem toNat_start (header : Header) :
    header.start.toNat = (header.version.toNat * 16 % 256) ||| header.headerWords.toNat := by
  rw [start, UInt8.toNat_or, Bytes.toNat_shiftLeft_four]

theorem start_eq_iff (header : Header) :
    header.start = 69 ↔
      (header.version.toNat * 16 % 256) ||| header.headerWords.toNat = 0x45 := by
  rw [← toNat_start, ← UInt8.toNat_inj]
  rfl

/-- Of a header that is read, its version, its length and its protocol may be read otherwise. -/
theorem eq_iff_of_parse_toBytes (parsed : parse (header.toBytes ++ pad) = .ok read) :
    read = header ↔ header.version = 4 ∧ header.headerWords = 5 ∧
      header.protocol.canonical = header.protocol := by
  rcases parse_toBytes_append_eq_ok_iff.mp parsed with ⟨-, -, -, rfl⟩
  constructor
  · intro same
    have version := congrArg Header.version same
    have headerWords := congrArg Header.headerWords same
    have protocol := congrArg Header.protocol same
    exact ⟨version.symm, headerWords.symm, protocol⟩
  · rintro ⟨version, headerWords, protocol⟩
    rw [protocol, ← version, ← headerWords]

end Header

end Ipv4

namespace Packet

theorem wellFormed_iff (packet : Packet) :
    packet.WellFormed ↔ packet.header.version = 4 ∧ packet.header.headerWords = 5 ∧
      packet.header.protocol.canonical = packet.header.protocol ∧
      packet.header.totalLength.toNat = 20 + packet.payload.length := by
  constructor
  · rintro ⟨version, headerWords, protocol, totalLength⟩
    exact ⟨version, headerWords, protocol, totalLength⟩
  · rintro ⟨version, headerWords, protocol, totalLength⟩
    exact ⟨version, headerWords, protocol, totalLength⟩

/--
A packet is read back as it was, whatever follows its octets, exactly if its header is of version 4
and five words, names the canonical protocol and tells the length of the packet. A header is read
back, as some header, exactly if its first octet is that of version 4 and five words and its total
length is within the string; it is the same header exactly if the version, the length and the
protocol are what that octet and the number of the protocol tell.
-/
theorem survives_exactly :
    (∀ (packet : Packet) (pad : Bytes),
      parse (packet.build ++ pad) = .ok packet ↔
        packet.header.version = 4 ∧ packet.header.headerWords = 5 ∧
          packet.header.protocol.canonical = packet.header.protocol ∧
          packet.header.totalLength.toNat = 20 + packet.payload.length) ∧
    (∀ (header : Ipv4.Header) (pad : Bytes),
      if (header.version.toNat * 16 % 256) ||| header.headerWords.toNat = 0x45 ∧
          20 ≤ header.totalLength.toNat ∧ header.totalLength.toNat ≤ 20 + pad.length then
        ∃ read, Ipv4.Header.parse (header.toBytes ++ pad) = .ok read ∧
          (read = header ↔ header.version = 4 ∧ header.headerWords = 5 ∧
            header.protocol.canonical = header.protocol)
      else ∃ error, Ipv4.Header.parse (header.toBytes ++ pad) = .error error) ∧
    ∀ protocol : Ipv4.Protocol, protocol.canonical = protocol ↔
      protocol ∉ [.other 0, .other 1, .other 6, .other 17] := by
  refine ⟨?_, ?_, Ipv4.Protocol.canonical_eq_self_iff⟩
  · intro packet pad
    rw [← wellFormed_iff]
    constructor
    · intro parsed
      exact (wellFormed_of_parse parsed).1
    · intro wellFormed
      exact parse_build_append wellFormed pad
  · intro header pad
    split
    · rename_i told
      rcases told with ⟨octet, lower, upper⟩
      have start := header.start_eq_iff.mpr octet
      have parsed := Ipv4.Header.parse_toBytes_append_eq_ok_iff.mpr ⟨start, lower, upper, rfl⟩
      exact ⟨_, parsed, Ipv4.Header.eq_iff_of_parse_toBytes parsed⟩
    · rename_i untold
      cases parsed : Ipv4.Header.parse (header.toBytes ++ pad) with
      | error error => exact ⟨error, rfl⟩
      | ok read =>
          rcases Ipv4.Header.parse_toBytes_append_eq_ok_iff.mp parsed with
            ⟨start, lower, upper, -⟩
          exact absurd ⟨header.start_eq_iff.mp start, lower, upper⟩ untold

/-- A header of version 0 and 69 words travels as one of version 4 and five words. -/
example :
    Ipv4.Header.parse
        ({ Ipv4.Header.create .udp ⟨10, 0, 0, 1⟩ ⟨10, 0, 0, 2⟩ with
          version := 0, headerWords := 69 } : Ipv4.Header).toBytes =
      .ok (.create .udp ⟨10, 0, 0, 1⟩ ⟨10, 0, 0, 2⟩) := by
  cbv

end Packet

end VirtualNet
