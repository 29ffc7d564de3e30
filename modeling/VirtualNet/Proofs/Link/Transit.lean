import VirtualNet.Link
import VirtualNet.Proofs.Packet.Grammar

/-!
# Packets in transit between two links

A link receives into room for one MTU. What is cut off there would have to belong to the packet or
to what follows it: in the first case the packet is refused, and in the second it is received as if
nothing had been cut. So a packet that one link sends is received by another one whole, with the
time to live of the sender, or not at all.
-/

namespace VirtualNet

/-- Whether the next datagram leaves whole through a socket if it has so many octets. -/
def DatagramSocket.Passes (socket : DatagramSocket) (size : Nat) : Prop :=
  match socket.sends.head? with
  | some (.upTo limit) => size ≤ limit
  | some (.failure _) => False
  | _ => True

namespace Link

variable {sender receiver : Link} {socket : DatagramSocket} {peer : SocketAddress}
  {packet : Packet} {Intact : Packet → Prop}

theorem receive_eq (wide : 20 ≤ receiver.assembler.mtu) (datagram : Bytes) :
    receiver.receive datagram =
      match Packet.parse datagram with
      | .error error => .error error
      | .ok packet =>
        if receiver.assembler.mtu < packet.length then .error .invalidLength else .ok packet :=
  Packet.parse_take wide

/--
What becomes of a datagram that is sent through a socket, by what the next of its sends meets. It
leaves whole, and the result is its length; or a part of it leaves, or nothing, and the result is a
failure.
-/
inductive Departure (socket : DatagramSocket) (peer : SocketAddress) (datagram : Bytes) :
    Except PacketError Nat × DatagramSocket → Prop where
  | whole (passes : socket.Passes datagram.length) :
      Departure socket peer datagram
        (.ok datagram.length, ⟨socket.sends.tail, socket.transmitted ++ [⟨peer, datagram⟩]⟩)
  | short {limit : Nat} {rest : List Dispatch} (meets : socket.sends = .upTo limit :: rest)
      (less : limit < datagram.length) :
      Departure socket peer datagram
        (.error (.io ⟨.named "WriteZero", s!"sent {limit} of {datagram.length} bytes"⟩),
          ⟨rest, socket.transmitted ++ [⟨peer, datagram.take limit⟩]⟩)
  | failed {error : IoError} {rest : List Dispatch}
      (meets : socket.sends = .failure error :: rest) :
      Departure socket peer datagram (.error (.io error), ⟨rest, socket.transmitted⟩)

theorem sendDatagram_of_passes {datagram : Bytes} (passes : socket.Passes datagram.length)
    (peer : SocketAddress) :
    sendDatagram socket peer datagram =
      (.ok datagram.length, ⟨socket.sends.tail, socket.transmitted ++ [⟨peer, datagram⟩]⟩) := by
  rcases socket with ⟨sends, transmitted⟩
  cases sends with
  | nil => simp [sendDatagram, DatagramSocket.sendTo]
  | cons event rest =>
      cases event with
      | whole => simp [sendDatagram, DatagramSocket.sendTo]
      | upTo limit =>
          have fits : datagram.length ≤ limit := passes
          simp [sendDatagram, DatagramSocket.sendTo, fits, List.take_of_length_le fits]
      | failure error => exact passes.elim

theorem departure_sendDatagram (socket : DatagramSocket) (peer : SocketAddress)
    (datagram : Bytes) :
    Departure socket peer datagram (sendDatagram socket peer datagram) := by
  by_cases passes : socket.Passes datagram.length
  · rw [sendDatagram_of_passes passes]
    exact .whole passes
  · rcases socket with ⟨_ | ⟨event, rest⟩, transmitted⟩
    · exact absurd trivial passes
    · cases event with
      | whole => exact absurd trivial passes
      | upTo limit =>
          have less : limit < datagram.length := Nat.lt_of_not_le passes
          have sent : min limit datagram.length = limit := Nat.min_eq_left (Nat.le_of_lt less)
          simp only [sendDatagram, DatagramSocket.sendTo, sent, if_pos (Nat.ne_of_lt less)]
          exact .short rfl less
      | failure error => exact .failed rfl

/--
What comes of sending what a link's assembler came to. Where it failed, sending fails in the same
way and the socket is not touched. Otherwise one datagram that is no longer than the sender's MTU is
handed to the socket, and the receiver takes it for a packet of the given kind exactly if it is no
longer than its own.
-/
def Conveys (sender receiver : Link) (socket : DatagramSocket) (peer : SocketAddress)
    (assembled : Except PacketError Bytes) (sent : Except PacketError Nat × DatagramSocket)
    (Intact : Packet → Prop) : Prop :=
  match assembled with
  | .error error => sent = (.error error, socket)
  | .ok datagram =>
    Departure socket peer datagram sent ∧ datagram.length ≤ sender.assembler.mtu ∧
      ((∃ received, receiver.receive datagram = .ok received ∧ Intact received) ↔
        datagram.length ≤ receiver.assembler.mtu)

theorem receives_exactly_fitting (wide : 20 ≤ receiver.assembler.mtu)
    (wellFormed : packet.WellFormed) (intact : Intact packet) :
    (∃ received, receiver.receive packet.build = .ok received ∧ Intact received) ↔
      packet.build.length ≤ receiver.assembler.mtu := by
  have parsed : Packet.parse packet.build = .ok packet := by
    simpa using Packet.parse_build_append wellFormed []
  have size : packet.length = packet.build.length := by
    simp [Packet.length, Packet.build, Ipv4.Header.wireLength]
  simp only [receive_eq wide, parsed, size]
  constructor
  · rintro ⟨received, taken, -⟩
    apply Nat.le_of_not_lt
    intro cut
    simp [cut] at taken
  · intro fits
    exact ⟨packet, if_neg (Nat.not_lt_of_le fits), intact⟩

theorem conveys_of_wellFormed (wide : 20 ≤ receiver.assembler.mtu)
    (wellFormed : packet.WellFormed) (fits : packet.build.length ≤ sender.assembler.mtu)
    (intact : Intact packet) :
    Conveys sender receiver socket peer (.ok packet.build)
      (sendAssembled socket peer (.ok packet.build)) Intact :=
  ⟨departure_sendDatagram socket peer packet.build, fits,
    receives_exactly_fitting wide wellFormed intact⟩

theorem conveys_assembleIp {header : Ipv4.Header} {payload : Bytes}
    (wide : 20 ≤ receiver.assembler.mtu) (version : header.version = 4)
    (headerWords : header.headerWords = 5) :
    Conveys sender receiver socket peer (sender.assembler.assembleIp header payload)
      (sendAssembled socket peer (sender.assembler.assembleIp header payload))
      (fun received => received.payload = payload ∧
        received.header.timeToLive = header.timeToLive ∧ received.ipChecksumRight = true) := by
  cases assembled : sender.assembler.assembleIp header payload with
  | error error => rfl
  | ok datagram =>
      rcases Assembler.eq_build_of_assembleIp assembled with ⟨fits, within, rfl⟩
      have size : (Assembler.receivedPacket header payload).build.length = 20 + payload.length := by
        simp [Packet.build, Assembler.receivedPacket, Assembler.ipPacket]
      rw [← Assembler.build_receivedPacket]
      apply conveys_of_wellFormed wide
      · exact Assembler.wellFormed_receivedPacket version headerWords fits
      · rw [size]
        exact within
      · exact ⟨rfl, rfl, Assembler.ipChecksumRight_ipPacket⟩

theorem conveys_assembleTcp {ipHeader : Ipv4.Header} {tcpHeader : Tcp.Header} {payload : Bytes}
    (wide : 20 ≤ receiver.assembler.mtu) (version : ipHeader.version = 4)
    (headerWords : ipHeader.headerWords = 5) (dataOffset : tcpHeader.dataOffset = 5) :
    Conveys sender receiver socket peer
      (sender.assembler.assembleTcp ipHeader tcpHeader payload)
      (sendAssembled socket peer (sender.assembler.assembleTcp ipHeader tcpHeader payload))
      (fun received =>
        (∃ checksum,
          received.tcpSegment = .ok ({ tcpHeader with checksum := checksum }, payload)) ∧
          received.header.timeToLive = ipHeader.timeToLive ∧ received.ipChecksumRight = true ∧
          received.tcpChecksumRight = .ok true) := by
  cases assembled : sender.assembler.assembleTcp ipHeader tcpHeader payload with
  | error error => rfl
  | ok datagram =>
      have within := Assembler.le_mtu_of_assembleTcp assembled
      rcases Assembler.eq_build_of_assembleTcp assembled with ⟨fits, rfl⟩
      have size : (Assembler.tcpPacket ipHeader tcpHeader payload).build.length =
          40 + payload.length := by
        simp [Packet.build]
        omega
      apply conveys_of_wellFormed wide
      · exact Assembler.wellFormed_tcpPacket version headerWords fits
      · rw [size]
        exact within
      · refine ⟨⟨_, Assembler.tcpSegment_tcpPacket dataOffset⟩, ?_,
          Assembler.ipChecksumRight_tcpPacket, Assembler.tcpChecksumRight_tcpPacket dataOffset fits⟩
        rw [Assembler.header_tcpPacket]
        rfl

/--
A link receives what a packet parses to, unless the packet is longer than its MTU. What a link
sends is what its assembler makes of the headers with the time to live of the link. What the
assembler refuses does not reach the socket. A datagram that the socket lets leave whole is one that
fits the MTU and has as many octets as are reported, and it arrives whole: with its payload, its
checksums and this time to live.
-/
theorem carries_whole_packets (wide : 20 ≤ receiver.assembler.mtu) :
    (∀ datagram, receiver.receive datagram =
      match Packet.parse datagram with
      | .error error => .error error
      | .ok packet =>
        if receiver.assembler.mtu < packet.length then .error .invalidLength else .ok packet) ∧
    ∀ (sender : Link) (socket : DatagramSocket) (peer : SocketAddress) (header : Ipv4.Header)
        (payload : Bytes),
      header.version = 4 → header.headerWords = 5 →
        Conveys sender receiver socket peer
          (sender.assembler.assembleIp (header.withTimeToLive sender.timeToLive) payload)
          (sender.sendIp socket peer header payload)
          (fun received =>
            received.payload = payload ∧
              received.header.timeToLive = sender.timeToLive ∧
              received.ipChecksumRight = true) ∧
        ∀ tcpHeader : Tcp.Header, tcpHeader.dataOffset = 5 →
          Conveys sender receiver socket peer
            (sender.assembler.assembleTcp (header.withTimeToLive sender.timeToLive) tcpHeader
              payload)
            (sender.sendTcp socket peer header tcpHeader payload)
            (fun received =>
              (∃ checksum, received.tcpSegment =
                .ok ({ tcpHeader with checksum := checksum }, payload)) ∧
                received.header.timeToLive = sender.timeToLive ∧
                received.ipChecksumRight = true ∧
                received.tcpChecksumRight = .ok true) := by
  refine ⟨receive_eq wide, ?_⟩
  intro sender socket peer header payload version headerWords
  constructor
  · exact conveys_assembleIp wide version headerWords
  · intro tcpHeader dataOffset
    exact conveys_assembleTcp wide version headerWords dataOffset

/-- A greeting of 43 octets leaves through a socket that lets 43 octets leave. It is received into
room for 43 and refused by room for 42. -/
theorem carries_greeting_that_just_fits :
    let header := Ipv4.Header.create .udp ⟨192, 168, 0, 1⟩ ⟨192, 168, 0, 2⟩
    let peer := SocketAddress.v4 .localhost 5001
    20 ≤ (Link.mk ⟨43⟩ 16).assembler.mtu ∧ header.version = 4 ∧ header.headerWords = 5 ∧
      (Tcp.Header.create 12345 80).dataOffset = 5 ∧
      ∃ datagram received checksum,
        (Link.mk ⟨1400⟩ 3).sendTcp ⟨[.upTo 43, .whole], []⟩ peer header (.create 12345 80)
            [72, 105, 33] = (.ok 43, ⟨[.whole], [⟨peer, datagram⟩]⟩) ∧
          (Link.mk ⟨43⟩ 16).receive datagram = .ok received ∧
          received.tcpSegment =
            .ok ({ Tcp.Header.create 12345 80 with checksum := checksum }, [72, 105, 33]) ∧
          received.header.timeToLive = 3 ∧ received.tcpChecksumRight = .ok true ∧
          (Link.mk ⟨42⟩ 16).receive datagram = .error .invalidLength := by
  intro header peer
  let sender : Link := ⟨⟨1400⟩, 3⟩
  have wide : 20 ≤ (Link.mk ⟨43⟩ 16).assembler.mtu := by decide
  have assembled : sender.assembler.assembleTcp (header.withTimeToLive sender.timeToLive)
      (.create 12345 80) [72, 105, 33] =
        .ok [69, 0, 0, 43, 0, 0, 0, 0, 3, 6, 54, 122, 192, 168, 0, 1, 192, 168, 0, 2,
          48, 57, 0, 80, 0, 0, 0, 0, 0, 0, 0, 0, 80, 0, 255, 255, 148, 155, 0, 0,
          72, 105, 33] := by
    cbv
  have conveys := ((carries_whole_packets wide).2 sender ⟨[.upTo 43, .whole], []⟩ peer header
    [72, 105, 33] rfl rfl).2 (.create 12345 80) rfl
  rw [assembled] at conveys
  rcases conveys with ⟨departure, -, takes⟩
  rcases takes.mpr (by decide) with ⟨received, taken, ⟨checksum, carried⟩, stamped, -, right⟩
  refine ⟨wide, rfl, rfl, rfl, _, received, checksum, ?_, taken, carried, stamped, right, by cbv⟩
  generalize sender.sendTcp ⟨[.upTo 43, .whole], []⟩ peer header (.create 12345 80)
    [72, 105, 33] = sent at departure
  cases departure with
  | whole _ => rfl
  | short meets less =>
      cases meets
      exact absurd less (by decide)
  | failed meets => cases meets

end Link

end VirtualNet
