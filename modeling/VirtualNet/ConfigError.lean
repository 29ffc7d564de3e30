/-!
# Refused configurations
-/

namespace VirtualNet

/-- Why a configuration was refused. -/
inductive ConfigError where
  /-- A range of targets without a value. -/
  | invalidTargetRange (lower upper : Int32)
  | zeroConnectionLimit
  /-- An MTU below the length of an IPv4 header. -/
  | mtuTooSmall (mtu : UInt64)
  deriving DecidableEq, Repr

/-- What is said of a refused configuration. -/
def ConfigError.message : ConfigError → String
  | .invalidTargetRange lower upper => s!"Invalid target range {lower}..{upper}"
  | .zeroConnectionLimit => "Connection limit must be at least 1"
  | .mtuTooSmall mtu => s!"MTU of {mtu} bytes cannot hold an IPv4 header"

end VirtualNet
