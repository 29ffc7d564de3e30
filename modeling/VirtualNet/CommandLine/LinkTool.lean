import VirtualNet.CommandLine.Arguments
import VirtualNet.CommandLine.Report
import VirtualNet.Indexed
import VirtualNet.Text.Number
import VirtualNet.Text.Utf8

/-!
# The link tool

`vip send` and `vip send-tcp` send one packet over a virtual link, and `vip recv` prints what
arrives on one. The receiving command writes as it goes: a datagram that holds no packet is dropped
with a warning, and the command ends with a failure of its socket, or where reading a packet breaks
it off.
-/

namespace VirtualNet.CommandLine.LinkTool

/-- What a sending command is given. -/
structure SendRequest where
  bindAddress : SocketAddress
  peer : SocketAddress
  source : Ipv4Address
  destination : Ipv4Address
  timeToLive : UInt8
  protocol : Ipv4.Protocol
  /-- The ports of a TCP segment; none for a bare IP packet. -/
  ports? : Option (UInt16 × UInt16)
  message : String
  deriving DecidableEq, Repr

/-- A command of the tool. -/
inductive Command where
  | send (request : SendRequest)
  | receive (bindAddress : SocketAddress)
  deriving DecidableEq, Repr

/-- Where a receiving node listens if nothing else is said. -/
def defaultReceiver : SocketAddress := .v4 Ipv4Address.localhost 5001

/-- The address that a command binds. -/
def bindOption : ValueOption SocketAddress := ⟨"bind", none, SocketAddress.ofString?⟩

/-- The address that a packet is sent to. -/
def peerOption : ValueOption SocketAddress := ⟨"to", none, SocketAddress.ofString?⟩

/-- The source in the IPv4 header. -/
def sourceOption : ValueOption Ipv4Address := ⟨"src", none, Ipv4Address.ofString?⟩

/-- The destination in the IPv4 header. -/
def destinationOption : ValueOption Ipv4Address := ⟨"dst", none, Ipv4Address.ofString?⟩

/-- The time to live in the IPv4 header. -/
def timeToLiveOption : ValueOption UInt8 := ⟨"ttl", none, Text.uint8?⟩

/-- The protocol number in the IPv4 header. -/
def protocolOption : ValueOption UInt8 := ⟨"protocol", none, Text.uint8?⟩

/-- The source port in the TCP header. -/
def sourcePortOption : ValueOption UInt16 := ⟨"src-port", none, Text.uint16?⟩

/-- The destination port in the TCP header. -/
def destinationPortOption : ValueOption UInt16 := ⟨"dst-port", none, Text.uint16?⟩

/-- What a sending command takes beside its own options: one message. -/
def sendUsage (options : List OptionSpec) : Usage where
  options := [bindOption.spec, peerOption.spec, sourceOption.spec, destinationOption.spec,
    timeToLiveOption.spec] ++ options
  positionals := 1

/-- What the arguments of a sending command ask for. -/
def sendRequest (arguments : Arguments) (protocol : Ipv4.Protocol)
    (ports? : Option (UInt16 × UInt16)) : SendRequest where
  bindAddress := (arguments.value? bindOption).getD (.v4 Ipv4Address.localhost 5000)
  peer := (arguments.value? peerOption).getD defaultReceiver
  source := (arguments.value? sourceOption).getD ⟨192, 168, 0, 1⟩
  destination := (arguments.value? destinationOption).getD ⟨192, 168, 0, 2⟩
  timeToLive := (arguments.value? timeToLiveOption).getD Ipv4.defaultTimeToLive
  protocol := protocol
  ports? := ports?
  message := arguments.positionals.headD ""

/-- Reads a command line of the tool. -/
def command : List String → Except Stop Command
  | "send" :: words => do
    let arguments ← Arguments.read (sendUsage [protocolOption.spec]) words
    let protocol := (arguments.value? protocolOption).getD 0
    return .send (sendRequest arguments (.ofNumber protocol) none)
  | "send-tcp" :: words => do
    let arguments ←
      Arguments.read (sendUsage [sourcePortOption.spec, destinationPortOption.spec]) words
    let sourcePort := (arguments.value? sourcePortOption).getD 12345
    let destinationPort := (arguments.value? destinationPortOption).getD 80
    return .send (sendRequest arguments .tcp (some (sourcePort, destinationPort)))
  | "recv" :: words => do
    let arguments ← Arguments.read ⟨[bindOption.spec], 0⟩ words
    return .receive ((arguments.value? bindOption).getD defaultReceiver)
  | words => Arguments.noCommand words

/-- The link that a command of the tool binds. -/
def bindLink (bindAddress : SocketAddress) (timeToLive : UInt8) : Except PacketError Link :=
  Link.bind ⟨bindAddress, Assembler.defaultMtu.toUInt64, timeToLive⟩

/-- Sends one packet through a socket; the result is the number of octets sent. -/
def send (socket : DatagramSocket) (request : SendRequest) :
    Except PacketError Nat × DatagramSocket :=
  let header := Ipv4.Header.create request.protocol request.source request.destination
  match bindLink request.bindAddress request.timeToLive with
  | .error error => (.error error, socket)
  | .ok link =>
    let payload := request.message.toUTF8.toList
    match request.ports? with
    | some (sourcePort, destinationPort) =>
      let tcpHeader :=
        ((Tcp.Header.create sourcePort destinationPort).withSequence 1).withAcknowledgment 1
      link.sendTcp socket request.peer header tcpHeader payload
    | none => link.sendIp socket request.peer header payload

/-- What a sending command reports. -/
def sendReport : Except PacketError Nat → Report
  | .ok sent => ⟨0, [.line s!"Sent {sent} bytes"]⟩
  | .error error => .failure [] error.message

/-! ### Receiving -/

/-- What a receiving socket yields. -/
inductive Reception where
  | datagram (sender : String) (bytes : Bytes)
  | failure (error : IoError)
  deriving DecidableEq, Repr

/-- Why a receiving node comes to an end. -/
inductive Ending where
  | failed (error : PacketError)
  | brokenOff (fault : Fault)
  deriving DecidableEq, Repr

/-- What a receiving node does: it writes as it goes and may come to an end. -/
abbrev Listening := ExceptT Ending (StateM (List Emission))

/-- Writes something. -/
def write (emissions : List Emission) : Listening Unit :=
  modify (· ++ emissions)

/-- Goes on with what was read, unless the reader broke off. -/
def evaluate {α : Type} : Except Fault α → Listening α
  | .ok value => pure value
  | .error fault => throw (.brokenOff fault)

/-- How the outcome of a check is printed. -/
def status (right : Bool) : String :=
  if right then "OK" else "FAIL"

/-- The lines about a packet that are printed whatever its checksum is. -/
def headerLines (sender : String) (header : Ipv4.Header) : List Emission :=
  [.line s!"Received IP packet from {sender}",
    .line (s!"Header:  {header.source} -> {header.destination} " ++
      s!"proto {header.protocol.number} ttl {header.timeToLive} len {header.totalLength}")]

/-- The line about the checksum in an IPv4 header. -/
def checksumLine (right : Bool) : Emission :=
  .line s!"Checksum:  {status right}"

/-- The line about a payload that is no TCP segment. -/
def messageLine (payload : Bytes) : Emission :=
  .line s!"Message:  {Text.Utf8.lossy payload}"

/-- The lines about a TCP segment. -/
def tcpLines (header : Tcp.Header) (data : Bytes) (right : Bool) : List Emission :=
  [.line (s!"TCP header:  {header.sourcePort} -> {header.destinationPort} " ++
      s!"seq {header.sequenceNumber} ack {header.acknowledgmentNumber} win {header.windowSize}"),
    .line s!"Flags:  {header.flags}",
    .line s!"TCP Checksum:  {status right}",
    .line s!"Payload ({data.length} bytes):  {Text.Utf8.lossy data}"]

/-- What is logged of something that was refused. -/
def dropped (what : String) (error : PacketError) : Emission :=
  .log ⟨.warn, s!"Dropping malformed {what}: {error.message}"⟩

/-- What is written of the payload of a TCP packet, as far as it was read and judged. -/
def segmentLines : Except PacketError (Tcp.Header × Bytes) → Except PacketError Bool → List Emission
  | .ok (header, data), .ok right => tcpLines header data right
  | .error error, _ => [dropped "TCP segment" error]
  | .ok _, .error error => [dropped "TCP segment" error]

/-- Prints a packet. -/
def printPacket (sender : String) (packet : Packet) : Listening Unit := do
  write (headerLines sender packet.header)
  write [checksumLine (← evaluate (Indexed.ipChecksumRight packet))]
  if packet.header.protocol ≠ .tcp then
    write [messageLine packet.payload]
  else
    let segment ← evaluate (Indexed.tcpSegment packet).run
    let checksum ← evaluate (Indexed.tcpChecksumRight packet).run
    write (segmentLines segment checksum)

/-- What a link makes of what its socket yields. -/
def receive (link : Link) : Reception → Indexed.Inspection (String × Packet)
  | .datagram sender bytes => do return (sender, ← Indexed.receive link bytes)
  | .failure error => throw (.io error)

/-- Receives once. What was received is printed or dropped, and a failure of the socket ends it. -/
def attend (link : Link) (reception : Reception) : Listening Unit := do
  match ← evaluate (receive link reception).run with
  | .ok (sender, packet) => printPacket sender packet
  | .error (.io error) => throw (.failed (.io error))
  | .error error => write [dropped "packet" error]

/-- Receives as long as the socket yields something. -/
def listen (link : Link) : List Reception → Listening Unit
  | [] => pure ()
  | reception :: rest => do
    attend link reception
    listen link rest

/-- What the receiving command reports of what its socket yields. -/
def receiveReport (bindAddress : SocketAddress) (receptions : List Reception) : Report :=
  match bindLink bindAddress Ipv4.defaultTimeToLive with
  | .error error => .failure [] error.message
  | .ok link =>
    match (listen link receptions).run.run [] with
    | (.ok (), emissions) => ⟨0, emissions⟩
    | (.error (.failed error), emissions) => .failure emissions error.message
    | (.error (.brokenOff fault), emissions) => .brokenOff emissions fault.message

end VirtualNet.CommandLine.LinkTool
