import VirtualNet.Bytes
import VirtualNet.Text.Number

/-!
# IPv4 addresses

An address is four octets. Its text is the four octets in decimal with dots between them; reading
accepts that text alone, so no leading zeros, signs or blanks.
-/

namespace VirtualNet

/-- An IPv4 address. -/
structure Ipv4Address where
  first : UInt8
  second : UInt8
  third : UInt8
  fourth : UInt8
  deriving DecidableEq, Repr, Inhabited

namespace Ipv4Address

/-- The address that stands for every local interface. -/
def unspecified : Ipv4Address := ⟨0, 0, 0, 0⟩

/-- The address of the local host. -/
def localhost : Ipv4Address := ⟨127, 0, 0, 1⟩

/-- The octets of an address in the order in which they travel. -/
def octets (address : Ipv4Address) : Bytes :=
  [address.first, address.second, address.third, address.fourth]

@[simp]
theorem length_octets (address : Ipv4Address) : address.octets.length = 4 := rfl

instance : ToString Ipv4Address where
  toString address :=
    s!"{address.first}.{address.second}.{address.third}.{address.fourth}"

/-- Reads an octet of one to three digits without a leading zero. -/
def readOctet? (text : List Char) : Option (UInt8 × List Char) :=
  match Text.digits Text.decimalDigit? text with
  | (values, rest) =>
    let number := Text.ofDigits 10 values
    if values.length = 0 ∨ 3 < values.length then none
    else if values.head? = some 0 ∧ 1 < values.length then none
    else if 255 < number then none
    else some (number.toUInt8, rest)

/-- Reads an octet after a dot. -/
def readDotted? : List Char → Option (UInt8 × List Char)
  | '.' :: text => readOctet? text
  | _ => none

/-- Reads an address from the front of a text. -/
def read? (text : List Char) : Option (Ipv4Address × List Char) := do
  let (first, text) ← readOctet? text
  let (second, text) ← readDotted? text
  let (third, text) ← readDotted? text
  let (fourth, text) ← readDotted? text
  return (⟨first, second, third, fourth⟩, text)

/-- Reads a whole text as an address. -/
def ofString? (text : String) : Option Ipv4Address :=
  match read? text.toList with
  | some (address, []) => some address
  | _ => none

end Ipv4Address

end VirtualNet
