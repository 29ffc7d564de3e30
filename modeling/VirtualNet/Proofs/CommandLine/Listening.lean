import VirtualNet.CommandLine.LinkTool
import VirtualNet.Proofs.Packet.Inspection
import VirtualNet.Proofs.Text.Utf8

/-!
# A receiving node survives any traffic

Whatever a datagram holds, the receiving node attends to it and goes on: reading it never breaks
off, and no refusal of it is a failure of the socket. `datagramLines` is what the node writes of a
datagram, and it depends on nothing else. `writes_attend` is the step and `run_listen_append` the
run, by induction on the datagrams, for whatever the socket yields after them. `Shows` spells out
the text that is to be printed of a datagram, apart from the functions that print it.
-/

namespace VirtualNet

theorem Ipv4.Header.parse_ne_io (bytes : Bytes) (error : IoError) :
    parse bytes ≠ .error (.io error) := by
  by_cases short : bytes.length < 20
  · rw [parse_of_short short]
    exact nofun
  · rw [parse_of_long (Nat.le_of_not_lt short)]
    repeat' split
    all_goals exact nofun

theorem Packet.parse_ne_io (bytes : Bytes) (error : IoError) :
    parse bytes ≠ .error (.io error) := by
  cases read : Ipv4.Header.parse bytes with
  | ok header =>
      rw [parse_of_read read]
      exact nofun
  | error cause =>
      rw [parse_of_refused read]
      rintro ⟨rfl⟩
      exact Ipv4.Header.parse_ne_io bytes error read

namespace CommandLine.LinkTool

/-- What is written of a packet. -/
def packetLines (sender : String) (packet : Packet) : List Emission :=
  headerLines sender packet.header ++ ([checksumLine packet.ipChecksumRight] ++
    if packet.header.protocol ≠ .tcp then [messageLine packet.payload]
    else segmentLines packet.tcpSegment packet.tcpChecksumRight)

/-- What is written of a datagram. -/
def datagramLines (link : Link) (sender : String) (bytes : Bytes) : List Emission :=
  match link.receive bytes with
  | .ok packet => packetLines sender packet
  | .error error => [dropped "packet" error]

/-- An action comes to its end and has written something. -/
def Writes (action : Listening Unit) (emissions : List Emission) : Prop :=
  ∀ written, action.run.run written = (.ok (), written ++ emissions)

theorem writes_write (emissions : List Emission) : Writes (write emissions) emissions :=
  fun _ => rfl

theorem Writes.run_bind {first next : Listening Unit} {emissions : List Emission}
    (writes : Writes first emissions) (written : List Emission) :
    (do first; next : Listening Unit).run.run written = next.run.run (written ++ emissions) := by
  simp only [ExceptT.run_bind, StateT.run_bind, writes written]
  rfl

theorem Writes.andThen {first next : Listening Unit} {emissions emissions' : List Emission}
    (writes : Writes first emissions) (writes' : Writes next emissions') :
    Writes (do first; next) (emissions ++ emissions') := by
  intro written
  rw [writes.run_bind, writes', List.append_assoc]

theorem evaluate_bind {α β : Type} {reading : Except Fault α} {value : α}
    (read : reading = .ok value) (next : α → Listening β) :
    (evaluate reading >>= next) = next value := by
  rw [read]
  rfl

theorem writes_printPacket (sender : String) (packet : Packet) :
    Writes (printPacket sender packet) (packetLines sender packet) := by
  apply (writes_write _).andThen
  rw [evaluate_bind (Indexed.ipChecksumRight_eq packet)]
  apply (writes_write _).andThen
  by_cases other : packet.header.protocol ≠ .tcp
  · rw [if_pos other, if_pos other]
    exact writes_write _
  · rw [if_neg other, if_neg other, evaluate_bind (Indexed.run_tcpSegment packet),
      evaluate_bind (Indexed.run_tcpChecksumRight packet)]
    exact writes_write _

/-- Whatever a datagram holds, it is printed or dropped. -/
theorem writes_attend (link : Link) (sender : String) (bytes : Bytes) :
    Writes (attend link (.datagram sender bytes)) (datagramLines link sender bytes) := by
  have received : (receive link (.datagram sender bytes)).run =
      .ok (link.receive bytes >>= fun packet => .ok (sender, packet)) :=
    Indexed.run_bind (Indexed.run_receive link bytes) fun _ _ => rfl
  have noFailure (cause : IoError) : link.receive bytes ≠ .error (.io cause) :=
    Packet.parse_ne_io _ cause
  rw [attend, evaluate_bind received, datagramLines]
  cases read : link.receive bytes with
  | ok packet => exact writes_printPacket sender packet
  | error error =>
      cases error with
      | io cause => exact absurd read (noFailure cause)
      | _ => exact writes_write _

/-- What the socket of a node yields for datagrams. -/
def receptions (datagrams : List (String × Bytes)) : List Reception :=
  datagrams.map fun datagram => .datagram datagram.1 datagram.2

/-- The datagrams are attended to in turn, and then what comes after them. -/
theorem run_listen_append (link : Link) (datagrams : List (String × Bytes))
    (rest : List Reception) (written : List Emission) :
    (listen link (receptions datagrams ++ rest)).run.run written =
      (listen link rest).run.run
        (written ++
          datagrams.flatMap fun datagram => datagramLines link datagram.1 datagram.2) := by
  induction datagrams generalizing written with
  | nil =>
      rw [List.flatMap_nil, List.append_nil]
      rfl
  | cons datagram later ih =>
      rw [List.flatMap_cons, ← List.append_assoc, ← ih]
      exact (writes_attend link datagram.1 datagram.2).run_bind written

/-- The output among what was written. -/
def printed (emissions : List Emission) : String :=
  String.join (emissions.map Emission.outputText)

theorem printed_append (emissions emissions' : List Emission) :
    printed (emissions ++ emissions') = printed emissions ++ printed emissions' := by
  rw [printed, List.map_append, String.join_append]
  rfl

theorem printed_flatMap {α : Type} (items : List α) (lines : α → List Emission) :
    printed (items.flatMap lines) = String.join (items.map fun item => printed (lines item)) := by
  induction items with
  | nil => rfl
  | cons item rest ih =>
      rw [List.flatMap_cons, printed_append, ih, List.map_cons, String.join_cons]

theorem printed_nil : printed [] = "" := rfl

theorem printed_cons_line (text : String) (emissions : List Emission) :
    printed (.line text :: emissions) = text ++ "\n" ++ printed emissions := by
  rw [printed, List.map_cons, String.join_cons]
  rfl

/-! ### The texts that are printed -/

/-- An address in print. -/
def addressText (address : Ipv4Address) : String :=
  s!"{address.first}.{address.second}.{address.third}.{address.fourth}"

/-- The outcome of a check in print. -/
def checkText (right : Bool) : String :=
  if right then "OK" else "FAIL"

/-- The flags in print: the names of those that are set. -/
def flagsText (flags : Tcp.Flags) : String :=
  "+".intercalate
    ([(flags.fin, "FIN"), (flags.syn, "SYN"), (flags.rst, "RST"), (flags.psh, "PSH"),
      (flags.ack, "ACK"), (flags.urg, "URG"), (flags.ece, "ECE"), (flags.cwr, "CWR")].filterMap
        fun (set, name) => if set then some name else none)

/-- What is printed of every packet. -/
def ipText (sender : String) (header : Ipv4.Header) (right : Bool) : String :=
  s!"Received IP packet from {sender}\n" ++
    s!"Header:  {addressText header.source} -> {addressText header.destination} " ++
    s!"proto {header.protocol.number} ttl {header.timeToLive} len {header.totalLength}\n" ++
    s!"Checksum:  {checkText right}\n"

/-- What is printed of a payload that is no TCP segment. -/
def messageText (payload : Bytes) : String :=
  s!"Message:  {Text.Utf8.lossy payload}\n"

/-- What is printed of a TCP segment. -/
def segmentText (header : Tcp.Header) (data : Bytes) (right : Bool) : String :=
  s!"TCP header:  {header.sourcePort} -> {header.destinationPort} " ++
    s!"seq {header.sequenceNumber} ack {header.acknowledgmentNumber} win {header.windowSize}\n" ++
    s!"Flags:  {flagsText header.flags}\n" ++
    s!"TCP Checksum:  {checkText right}\n" ++
    s!"Payload ({data.length} bytes):  {Text.Utf8.lossy data}\n"

/--
What a node prints of a datagram from a sender. It depends on the first 1400 octets of the datagram
and on the sender alone.
-/
inductive Shows (sender : String) (bytes : Bytes) : String → Prop where
  | nothing {error : PacketError} (refused : Packet.parse (bytes.take 1400) = .error error) :
      Shows sender bytes ""
  | message {packet : Packet} (parsed : Packet.parse (bytes.take 1400) = .ok packet)
      (other : packet.header.protocol ≠ .tcp) :
      Shows sender bytes
        (ipText sender packet.header packet.ipChecksumRight ++ messageText packet.payload)
  | segment {packet : Packet} {header : Tcp.Header} {data : Bytes} {right : Bool}
      (parsed : Packet.parse (bytes.take 1400) = .ok packet)
      (protocol : packet.header.protocol = .tcp)
      (split : packet.tcpSegment = .ok (header, data))
      (judged : packet.tcpChecksumRight = .ok right) :
      Shows sender bytes
        (ipText sender packet.header packet.ipChecksumRight ++ segmentText header data right)
  | noSegment {packet : Packet} {error : PacketError}
      (parsed : Packet.parse (bytes.take 1400) = .ok packet)
      (protocol : packet.header.protocol = .tcp) (refused : packet.tcpSegment = .error error) :
      Shows sender bytes (ipText sender packet.header packet.ipChecksumRight)

theorem toString_text (text : String) : toString text = text := rfl

theorem status_eq_checkText (right : Bool) : status right = checkText right := rfl

theorem toString_address (address : Ipv4Address) : toString address = addressText address := rfl

theorem map_filter_marked (marked : List (Bool × String)) :
    (marked.filter (·.1)).map (·.2) =
      marked.filterMap fun (set, name) => if set then some name else none := by
  induction marked with
  | nil => rfl
  | cons entry rest ih =>
      rcases entry with ⟨set, name⟩
      cases set with
      | false => simpa using ih
      | true => simpa using ih

theorem toString_flags (flags : Tcp.Flags) : toString flags = flagsText flags := by
  unfold flagsText
  rw [← map_filter_marked]
  rfl

theorem printed_headerLines (sender : String) (header : Ipv4.Header) (right : Bool)
    (emissions : List Emission) :
    printed (headerLines sender header ++ checksumLine right :: emissions) =
      ipText sender header right ++ printed emissions := by
  unfold ipText
  simp only [headerLines, checksumLine, List.cons_append, List.nil_append, printed_cons_line,
    toString_text, toString_address, status_eq_checkText, String.append_assoc]

theorem printed_messageLine (payload : Bytes) :
    printed [messageLine payload] = messageText payload := by
  unfold messageText
  simp only [messageLine, printed_cons_line, printed_nil, toString_text, String.append_assoc]
  rw [String.append_empty]

theorem printed_tcpLines (header : Tcp.Header) (data : Bytes) (right : Bool) :
    printed (tcpLines header data right) = segmentText header data right := by
  unfold segmentText
  simp only [tcpLines, printed_cons_line, printed_nil, toString_text, toString_flags,
    status_eq_checkText, String.append_assoc]
  rw [String.append_empty]

theorem printed_dropped (what : String) (error : PacketError) :
    printed [dropped what error] = "" := rfl

theorem shows_datagramLines {link : Link} (mtu : link.assembler.mtu = 1400) (sender : String)
    (bytes : Bytes) : Shows sender bytes (printed (datagramLines link sender bytes)) := by
  rw [datagramLines, Link.receive, mtu]
  cases parsed : Packet.parse (bytes.take 1400) with
  | error error => exact .nothing parsed
  | ok packet =>
      simp only [packetLines, List.singleton_append, printed_headerLines]
      by_cases protocol : packet.header.protocol = .tcp
      · rw [if_neg (not_not_intro protocol)]
        cases split : packet.tcpSegment with
        | error error =>
            rw [segmentLines, printed_dropped, String.append_empty]
            exact .noSegment parsed protocol split
        | ok segment =>
            -- A packet that was parsed is not too long for its checksum to be judged.
            rcases Packet.wellFormed_of_parse parsed with ⟨wellFormed, -, -⟩
            rcases Packet.tcpSegment_eq_ok_iff.mp split with ⟨-, read, -⟩
            have judged := Packet.tcpChecksumRight_of_carried wellFormed
              (Tcp.Header.kept_of_parse read).1 split
            rw [judged, segmentLines, printed_tcpLines]
            exact .segment parsed protocol split judged
      · rw [if_pos protocol, printed_messageLine]
        exact .message parsed protocol

/--
A receiving node survives any traffic. Whatever datagrams arrive, it attends to all of them, and
only a failure of its socket ends it, with that failure. What it prints of a datagram is a function
of the datagram and its sender alone: nothing if the first 1400 octets hold no packet, and otherwise
what the views of the packet say, with no line about a TCP segment that is refused. A payload that
is a text in UTF-8 is printed as this text.
-/
theorem survives_any_traffic :
    ∃ shown : String → Bytes → String, (∀ sender bytes, Shows sender bytes (shown sender bytes)) ∧
      (∀ text : String, Text.Utf8.lossy text.toUTF8.data.toList = text) ∧
      ∀ (address : Ipv4Address) (port : UInt16) (datagrams : List (String × Bytes)),
        ∃ link emissions, bindLink (.v4 address port) Ipv4.defaultTimeToLive = .ok link ∧
          printed emissions =
            String.join (datagrams.map fun datagram => shown datagram.1 datagram.2) ∧
          (listen link (receptions datagrams)).run.run [] = (.ok (), emissions) ∧
          ∀ error rest,
            (listen link (receptions datagrams ++ .failure error :: rest)).run.run [] =
              (.error (.failed (.io error)), emissions) := by
  let link : Link := ⟨⟨1400⟩, Ipv4.defaultTimeToLive⟩
  refine ⟨fun sender bytes => printed (datagramLines link sender bytes),
    shows_datagramLines rfl, Text.Utf8.lossy_utf8, ?_⟩
  intro address port datagrams
  refine ⟨link, _, rfl, printed_flatMap _ _, ?_, ?_⟩
  · have ran := run_listen_append link datagrams [] []
    rw [List.append_nil] at ran
    exact ran
  · intro error rest
    exact run_listen_append link datagrams (.failure error :: rest) []

end CommandLine.LinkTool

end VirtualNet
