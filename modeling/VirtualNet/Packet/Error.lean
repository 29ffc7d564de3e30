import VirtualNet.ConfigError
import VirtualNet.IoError

/-!
# Failures of building, parsing and sending packets
-/

namespace VirtualNet

/-- A value that a field does not admit. -/
inductive FieldFault where
  /-- A TCP segment was asked of a packet that carries another protocol. -/
  | notTcp (protocol : UInt8)
  /-- A link was given a configuration that it cannot work with. -/
  | configuration (cause : ConfigError)
  deriving DecidableEq, Repr

/-- Why a packet or a header was refused. -/
inductive PacketError where
  | tooLarge (size mtu : Nat)
  | invalidLength
  | invalidChecksum
  /-- A checksum was to be computed over a header that already holds one. -/
  | checksumNotZeroed
  | invalidField (fault : FieldFault)
  | invalidVersion
  | invalidHeaderFormat
  | io (error : IoError)
  /-- A length does not fit the machine word. -/
  | overflow (cause : Overflow)
  deriving DecidableEq, Repr

/-- What is said of a value that a field does not admit. -/
def FieldFault.message : FieldFault → String
  | .notTcp protocol => s!"not a TCP packet (protocol {protocol})"
  | .configuration cause => cause.message

/-- What is said of a refused packet. -/
def PacketError.message : PacketError → String
  | .tooLarge size mtu => s!"Packet of {size} bytes exceeds the MTU of {mtu} bytes"
  | .invalidLength => "Invalid packet length"
  | .invalidChecksum => "Invalid checksum"
  | .checksumNotZeroed => "Checksum field must be zero before the checksum is computed"
  | .invalidField fault => s!"Invalid field value: {fault.message}"
  | .invalidVersion => "Invalid protocol version"
  | .invalidHeaderFormat => "Invalid header format"
  | .io error => s!"I/O error: {error.text}"
  | .overflow cause => cause.message

end VirtualNet
