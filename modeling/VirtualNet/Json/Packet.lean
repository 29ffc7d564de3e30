import VirtualNet.Json.Form
import VirtualNet.Packet
import VirtualNet.Tcp.Segment

/-!
# Serialized headers and packets
-/

namespace VirtualNet.Json

/-- A protocol is the name of a known one, or its number under the key for the rest. -/
instance : Form Ipv4.Protocol where
  toJson
    | .test => .string "Test"
    | .icmp => .string "Icmp"
    | .tcp => .string "Tcp"
    | .udp => .string "Udp"
    | .other number => .object [("Other", toJson number)]
  ofJson?
    | .object [("Other", json)] => (decode? UInt8 json).map .other
    | json =>
      match variant? json with
      | some "Test" => some .test
      | some "Icmp" => some .icmp
      | some "Tcp" => some .tcp
      | some "Udp" => some .udp
      | _ => none

instance : Form Tcp.Flags where
  toJson flags := .object [
    ("fin", toJson flags.fin), ("syn", toJson flags.syn), ("rst", toJson flags.rst),
    ("psh", toJson flags.psh), ("ack", toJson flags.ack), ("urg", toJson flags.urg),
    ("ece", toJson flags.ece), ("cwr", toJson flags.cwr)]
  ofJson? json := do
    let record ← record? ["fin", "syn", "rst", "psh", "ack", "urg", "ece", "cwr"] json
    return {
      fin := ← record.field? "fin"
      syn := ← record.field? "syn"
      rst := ← record.field? "rst"
      psh := ← record.field? "psh"
      ack := ← record.field? "ack"
      urg := ← record.field? "urg"
      ece := ← record.field? "ece"
      cwr := ← record.field? "cwr" }

instance : Form Ipv4.Header where
  toJson header := .object [
    ("version", toJson header.version),
    ("ihl", toJson header.headerWords),
    ("tos", toJson header.typeOfService),
    ("total_length", toJson header.totalLength),
    ("identification", toJson header.identification),
    ("flags_and_offset", toJson header.flagsAndOffset),
    ("ttl", toJson header.timeToLive),
    ("protocol", toJson header.protocol),
    ("checksum", toJson header.checksum),
    ("src_addr", toJson header.source),
    ("dst_addr", toJson header.destination)]
  ofJson? json := do
    let record ← record? ["version", "ihl", "tos", "total_length", "identification",
      "flags_and_offset", "ttl", "protocol", "checksum", "src_addr", "dst_addr"] json
    return {
      version := ← record.field? "version"
      headerWords := ← record.field? "ihl"
      typeOfService := ← record.field? "tos"
      totalLength := ← record.field? "total_length"
      identification := ← record.field? "identification"
      flagsAndOffset := ← record.field? "flags_and_offset"
      timeToLive := ← record.field? "ttl"
      protocol := ← record.field? "protocol"
      checksum := ← record.field? "checksum"
      source := ← record.field? "src_addr"
      destination := ← record.field? "dst_addr" }

instance : Form Tcp.Header where
  toJson header := .object [
    ("src_port", toJson header.sourcePort),
    ("dst_port", toJson header.destinationPort),
    ("sequence_number", toJson header.sequenceNumber),
    ("acknowledgment_number", toJson header.acknowledgmentNumber),
    ("data_offset", toJson header.dataOffset),
    ("flags", toJson header.flags),
    ("window_size", toJson header.windowSize),
    ("checksum", toJson header.checksum),
    ("urgent_pointer", toJson header.urgentPointer)]
  ofJson? json := do
    let record ← record? ["src_port", "dst_port", "sequence_number", "acknowledgment_number",
      "data_offset", "flags", "window_size", "checksum", "urgent_pointer"] json
    return {
      sourcePort := ← record.field? "src_port"
      destinationPort := ← record.field? "dst_port"
      sequenceNumber := ← record.field? "sequence_number"
      acknowledgmentNumber := ← record.field? "acknowledgment_number"
      dataOffset := ← record.field? "data_offset"
      flags := ← record.field? "flags"
      windowSize := ← record.field? "window_size"
      checksum := ← record.field? "checksum"
      urgentPointer := ← record.field? "urgent_pointer" }

instance : Form Tcp.Segment where
  toJson segment := .object [
    ("header", toJson segment.header),
    ("src_addr", toJson segment.source),
    ("dst_addr", toJson segment.destination),
    ("payload", toJson segment.payload)]
  ofJson? json := do
    let record ← record? ["header", "src_addr", "dst_addr", "payload"] json
    return {
      header := ← record.field? "header"
      source := ← record.field? "src_addr"
      destination := ← record.field? "dst_addr"
      payload := ← record.field? "payload" }

instance : Form Packet where
  toJson packet := .object [
    ("header", toJson packet.header),
    ("payload", toJson packet.payload)]
  ofJson? json := do
    let record ← record? ["header", "payload"] json
    return {
      header := ← record.field? "header"
      payload := ← record.field? "payload" }

end VirtualNet.Json
