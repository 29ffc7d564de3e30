/-!
# Protocol numbers

The protocol a packet carries is named where the virtual network knows it and is a bare number
otherwise. Every number has one canonical protocol, `Protocol.ofNumber`; a bare number may still
spell a known one, and such a spelling stays distinct from the named protocol.
-/

namespace VirtualNet.Ipv4

/-- What an IPv4 packet carries. -/
inductive Protocol where
  /-- Number zero, kept for test messages on the virtual network. -/
  | test
  | icmp
  | tcp
  | udp
  | other (number : UInt8)
  deriving DecidableEq, Repr

namespace Protocol

/-- The number that travels in the header. -/
def number : Protocol → UInt8
  | .test => 0
  | .icmp => 1
  | .tcp => 6
  | .udp => 17
  | .other number => number

/-- The canonical protocol of a number. -/
def ofNumber (number : UInt8) : Protocol :=
  if number = 0 then .test
  else if number = 1 then .icmp
  else if number = 6 then .tcp
  else if number = 17 then .udp
  else .other number

/-- The canonical protocol of the same number. -/
def canonical (protocol : Protocol) : Protocol :=
  ofNumber protocol.number

@[simp]
theorem number_ofNumber (number : UInt8) : (ofNumber number).number = number := by
  unfold ofNumber
  repeat' split
  all_goals simp_all [Protocol.number]

end Protocol

end VirtualNet.Ipv4
