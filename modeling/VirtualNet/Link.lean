import VirtualNet.Config
import VirtualNet.DatagramSocket
import VirtualNet.Packet.Assembler

/-!
# Virtual links

A link carries virtual packets in datagrams, one packet in each. Everything sent over a link is
assembled within its MTU and has its time to live, whatever the header says. What the assembler
refuses does not reach the socket, and a datagram that leaves only in part is a failure. A datagram
is received into room for one MTU; what does not fit is cut off, and the rest is parsed as a packet.
-/

namespace VirtualNet

/-- A bound link. -/
structure Link where
  assembler : Assembler
  timeToLive : UInt8
  deriving DecidableEq, Repr

namespace Link

/-- What is reported of a link that is to be bound to an IPv6 address. -/
def ipv6Error : IoError :=
  ⟨.named "InvalidInput", "virtual links run over IPv4 only"⟩

/-- Binds a link. Its configuration is judged before its address. -/
def bind (config : LinkConfig) : Except PacketError Link :=
  match config.validate with
  | .error cause => .error (.invalidField (.configuration cause))
  | .ok () =>
    match config.bindAddress with
    | .v4 .. => .ok ⟨⟨config.mtu.toNat⟩, config.timeToLive⟩
    | .v6 .. => .error (.io ipv6Error)

/-- What is reported of a datagram of which only so many octets have left. -/
def shortSendError (sent size : Nat) : IoError :=
  ⟨.named "WriteZero", s!"sent {sent} of {size} bytes"⟩

/-- Sends a packet in a datagram; the result is the number of octets sent. -/
def sendDatagram (socket : DatagramSocket) (peer : SocketAddress) (packet : Bytes) :
    Except PacketError Nat × DatagramSocket :=
  match socket.sendTo peer packet with
  | (.error error, socket) => (.error (.io error), socket)
  | (.ok sent, socket) =>
    if sent ≠ packet.length then (.error (.io (shortSendError sent packet.length)), socket)
    else (.ok sent, socket)

/-- Sends what was assembled. -/
def sendAssembled (socket : DatagramSocket) (peer : SocketAddress) :
    Except PacketError Bytes → Except PacketError Nat × DatagramSocket
  | .error error => (.error error, socket)
  | .ok packet => sendDatagram socket peer packet

/-- Sends a payload behind an IPv4 header. -/
def sendIp (link : Link) (socket : DatagramSocket) (peer : SocketAddress) (header : Ipv4.Header)
    (payload : Bytes) : Except PacketError Nat × DatagramSocket :=
  sendAssembled socket peer
    (link.assembler.assembleIp (header.withTimeToLive link.timeToLive) payload)

/-- Sends a TCP segment behind an IPv4 header. -/
def sendTcp (link : Link) (socket : DatagramSocket) (peer : SocketAddress) (ipHeader : Ipv4.Header)
    (tcpHeader : Tcp.Header) (payload : Bytes) : Except PacketError Nat × DatagramSocket :=
  sendAssembled socket peer
    (link.assembler.assembleTcp (ipHeader.withTimeToLive link.timeToLive) tcpHeader payload)

/-- Receives a datagram as a packet. -/
def receive (link : Link) (datagram : Bytes) : Except PacketError Packet :=
  Packet.parse (datagram.take link.assembler.mtu)

end Link

end VirtualNet
