import VirtualNet.Json.Game
import VirtualNet.Json.Packet
import VirtualNet.Json.Reader
import VirtualNet.Conversation
import VirtualNet.Main
import VirtualNet.Proofs.Checksum.Verification
import VirtualNet.Proofs.Ipv4.Header
import VirtualNet.Proofs.Packet.Assembly
import VirtualNet.Proofs.Packet.Delivery
import VirtualNet.Proofs.Packet.Corruption
import VirtualNet.Proofs.Framing.Accounting
import VirtualNet.Proofs.Game.History
import VirtualNet.Proofs.Game.Rounds
import VirtualNet.Proofs.Game.Targets
import VirtualNet.Proofs.Session.Steps
import VirtualNet.Proofs.Session.Accounting
import VirtualNet.Proofs.Framing.Stream
import VirtualNet.Proofs.Session.Stream
import VirtualNet.Proofs.Checksum.Arithmetic
import VirtualNet.Proofs.Checksum.WireOrder
import VirtualNet.Proofs.Framing.Exchange
import VirtualNet.Proofs.Packet.Grammar
import VirtualNet.Table
import VirtualNet.Proofs.Table.Turns
import VirtualNet.Proofs.Table.Linearization
import VirtualNet.Proofs.Tcp.Grammar
import VirtualNet.Proofs.Packet.Reassembly
import VirtualNet.Proofs.Link.Transit
import VirtualNet.Proofs.Conversation.Decisions
import VirtualNet.Proofs.Framing.Delays
import VirtualNet.Proofs.Packet.Survival
import VirtualNet.Proofs.Framing.Reporting
import VirtualNet.Proofs.Checksum.Detection
import VirtualNet.Proofs.Tcp.Segment
import VirtualNet.Proofs.Packet.Agreement
import VirtualNet.Proofs.Packet.Admission
import VirtualNet.Proofs.Ipv4.Preparation
import VirtualNet.Proofs.Ipv4.Staleness
import VirtualNet.Proofs.Game.Misses
import VirtualNet.Proofs.Tcp.Checksum
import VirtualNet.Proofs.Packet.Inspection
import VirtualNet.Proofs.CommandLine.Listening
import VirtualNet.Venue
import VirtualNet.Proofs.CommandLine.Playing
import VirtualNet.Proofs.Packet.Validation
