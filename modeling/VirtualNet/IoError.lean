/-!
# Failures of the machine below

What the operating system reports when a read, a write or a connection fails, and arithmetic that
leaves the machine word.
-/

namespace VirtualNet

/-- The kind of an input or output failure. Only an interruption is treated apart from the rest. -/
inductive IoErrorKind where
  | interrupted
  | named (name : String)
  deriving DecidableEq, Repr

namespace IoErrorKind

/-- The name under which a kind is reported. -/
def name : IoErrorKind → String
  | .interrupted => "Interrupted"
  | .named name => name

/-- The kind with a given name. -/
def ofName (name : String) : IoErrorKind :=
  if name = "Interrupted" then .interrupted else .named name

end IoErrorKind

/-- An input or output failure with the system's own words for it. -/
structure IoError where
  kind : IoErrorKind
  text : String
  deriving DecidableEq, Repr

/-- What the system reports where no peer can be reached. -/
def IoError.networkUnreachable : IoError :=
  ⟨.named "NetworkUnreachable", "Network is unreachable (os error 101)"⟩

/-- Arithmetic whose result does not fit the machine word. -/
inductive Overflow where
  | addition
  | subtraction
  | multiplication
  deriving DecidableEq, Repr

/-- The report of arithmetic that leaves the machine word. -/
def Overflow.message : Overflow → String
  | .addition => "attempt to add with overflow"
  | .subtraction => "attempt to subtract with overflow"
  | .multiplication => "attempt to multiply with overflow"

end VirtualNet
