import VirtualNet.Address.Ipv6

/-!
# Socket addresses

A socket address is an IPv4 address with a port, or an IPv6 address with a scope and a port. The
text of the second kind is in brackets, with the scope after a percent sign when it is not zero.
A port may be read with leading zeros and is written without them.
-/

namespace VirtualNet

/-- An address and a port. -/
inductive SocketAddress where
  | v4 (address : Ipv4Address) (port : UInt16)
  | v6 (address : Ipv6Address) (scope : UInt32) (port : UInt16)
  deriving DecidableEq, Repr

namespace SocketAddress

/-- Reads one or more decimal digits that spell a number below a bound. -/
def readBelow? (bound : Nat) (text : List Char) : Option (Nat × List Char) :=
  match Text.digits Text.decimalDigit? text with
  | (values, rest) =>
    if values.length = 0 ∨ bound ≤ Text.ofDigits 10 values then none
    else some (Text.ofDigits 10 values, rest)

/-- Reads a colon and a port. -/
def readPort? : List Char → Option (UInt16 × List Char)
  | ':' :: text => (readBelow? 65536 text).map fun (number, rest) => (number.toUInt16, rest)
  | _ => none

/-- Reads a percent sign and a scope; the scope is zero when the text has none. -/
def readScope : List Char → UInt32 × List Char
  | '%' :: text =>
    match readBelow? 4294967296 text with
    | some (number, rest) => (number.toUInt32, rest)
    | none => (0, '%' :: text)
  | text => (0, text)

/-- Reads an IPv4 socket address from the front of a text. -/
def readV4? (text : List Char) : Option (SocketAddress × List Char) := do
  let (address, text) ← Ipv4Address.read? text
  let (port, text) ← readPort? text
  return (.v4 address port, text)

/-- Reads a bracketed IPv6 socket address from the front of a text. -/
def readV6? : List Char → Option (SocketAddress × List Char)
  | '[' :: text => do
    let (address, text) ← Ipv6Address.read? text
    match readScope text with
    | (scope, ']' :: text) =>
      let (port, text) ← readPort? text
      return (.v6 address scope port, text)
    | _ => none
  | _ => none

/-- Reads a whole text as a socket address. -/
def ofString? (text : String) : Option SocketAddress :=
  match (readV4? text.toList).or (readV6? text.toList) with
  | some (address, []) => some address
  | _ => none

/-- The canonical text of a socket address. -/
def write : SocketAddress → String
  | .v4 address port => s!"{address}:{port}"
  | .v6 address scope port =>
    if scope = 0 then s!"[{address}]:{port}" else s!"[{address}%{scope}]:{port}"

instance : ToString SocketAddress where
  toString := write

end SocketAddress

end VirtualNet
