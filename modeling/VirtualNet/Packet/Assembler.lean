import VirtualNet.Packet

/-!
# Assembling packets

An assembler builds packets no longer than its MTU. It fills in the lengths and the checksums; the
rest of the headers is the caller's.
-/

namespace VirtualNet

/-- Builds packets of at most `mtu` octets. -/
structure Assembler where
  mtu : Nat
  deriving DecidableEq, Repr

namespace Assembler

/-- The MTU of an assembler for which none was chosen. -/
def defaultMtu : Nat := 1400

/-- The assembler for which no MTU was chosen. -/
def default : Assembler := ⟨defaultMtu⟩

/-- An IPv4 header followed by a payload; the protocol is the header's. -/
def assembleIp (assembler : Assembler) (header : Ipv4.Header) (payload : Bytes) :
    Except PacketError Bytes := do
  let header ←
    header.withTotalLength (Ipv4.Header.wireLength + payload.length) assembler.mtu
  return header.sealed.toBytes ++ payload

/-- A TCP segment behind an IPv4 header, whose protocol becomes TCP. -/
def assembleTcp (assembler : Assembler) (ipHeader : Ipv4.Header) (tcpHeader : Tcp.Header)
    (payload : Bytes) : Except PacketError Bytes :=
  let size := Ipv4.Header.wireLength + Tcp.Header.wireLength + payload.length
  if assembler.mtu < size then .error (.tooLarge size assembler.mtu)
  else do
    let ipHeader := ipHeader.withProtocol .tcp
    let segment ← (tcpHeader.sealFor ipHeader.source ipHeader.destination payload).1
    assembler.assembleIp ipHeader (segment ++ payload)

/-- A packet with a TCP segment if a TCP header is given, and without one otherwise. -/
def assemble (assembler : Assembler) (ipHeader : Ipv4.Header) (payload : Bytes)
    (tcpHeader? : Option Tcp.Header) : Except PacketError Bytes :=
  match tcpHeader? with
  | some tcpHeader => assembler.assembleTcp ipHeader tcpHeader payload
  | none => assembler.assembleIp ipHeader payload

end Assembler

/-- A packet of at most the default MTU. -/
def assemble (ipHeader : Ipv4.Header) (payload : Bytes) (tcpHeader? : Option Tcp.Header) :
    Except PacketError Bytes :=
  Assembler.default.assemble ipHeader payload tcpHeader?

end VirtualNet
