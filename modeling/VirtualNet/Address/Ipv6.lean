import VirtualNet.Address

/-!
# IPv6 addresses

An address is eight 16-bit groups. Reading accepts groups of one to four hexadecimal digits, one
`::` for at least one group of zeros, and an IPv4 address in place of the last two groups read on
either side of it, as long as the groups before `::` do not end in one. Writing is the canonical
form: lower case, no leading zeros, `::` for the longest run of at least two zero groups, the
first of equally long ones, and dotted decimals for an address that maps an IPv4 address.
-/

namespace VirtualNet

/-- An IPv6 address. -/
structure Ipv6Address where
  groups : Vector UInt16 8
  deriving DecidableEq, Repr

namespace Ipv6Address

/-- The address with the given groups, if they are eight. -/
def ofGroups? (groups : List UInt16) : Option Ipv6Address :=
  if size : groups.length = 8 then some ⟨⟨groups.toArray, by simpa using size⟩⟩ else none

/-- Reads a group of one to four hexadecimal digits. -/
def readGroup? (text : List Char) : Option (UInt16 × List Char) :=
  match Text.digits Text.hexDigit? text with
  | (values, rest) =>
    if values.length = 0 ∨ 4 < values.length then none
    else some ((Text.ofDigits 16 values).toUInt16, rest)

/-- Passes over the colon that separates a group from the one before it. -/
def afterSeparator? (leading : Bool) : List Char → Option (List Char)
  | text => if leading then some text
    else match text with
      | ':' :: rest => some rest
      | _ => none

/--
Reads as many groups as the text and the limit allow. An embedded IPv4 address counts for two
groups and ends the run; the flag says whether one did.
-/
def readGroups (leading : Bool) : Nat → List Char → List UInt16 × Bool × List Char
  | 0, text => ([], false, text)
  | limit + 1, text =>
    match afterSeparator? leading text with
    | none => ([], false, text)
    | some body =>
      match if limit = 0 then none else Ipv4Address.read? body with
      | some (address, rest) =>
        ([Bytes.word16 address.first address.second, Bytes.word16 address.third address.fourth],
          true, rest)
      | none =>
        match readGroup? body with
        | none => ([], false, text)
        | some (group, rest) =>
          let (groups, embedded, rest) := readGroups false limit rest
          (group :: groups, embedded, rest)

/-- Reads an address from the front of a text. -/
def read? (text : List Char) : Option (Ipv6Address × List Char) := do
  let (front, embedded, rest) := readGroups true 8 text
  if front.length = 8 then
    return (← ofGroups? front, rest)
  if embedded then none
  match rest with
  | ':' :: ':' :: rest =>
    let (back, _, rest) := readGroups true (7 - front.length) rest
    let zeros := List.replicate (8 - front.length - back.length) 0
    return (← ofGroups? (front ++ zeros ++ back), rest)
  | _ => none

/-- How many groups from a position on are zero without a break. -/
def zerosFrom (groups : List UInt16) (start : Nat) : Nat :=
  ((groups.drop start).takeWhile (· == 0)).length

/-- The start and length of the longest run of zero groups, the first of equally long ones. -/
def longestZeros (groups : List UInt16) : Nat × Nat :=
  (List.range groups.length).foldl
    (fun longest start =>
      if longest.2 < zerosFrom groups start then (start, zerosFrom groups start) else longest)
    (0, 0)

/-- Groups in hexadecimal with colons between them. -/
def writeGroups (groups : List UInt16) : String :=
  ":".intercalate (groups.map fun group => Text.hexadecimal group.toNat)

/-- The canonical text of an address. -/
def write (address : Ipv6Address) : String :=
  match address.groups.toList with
  | [0, 0, 0, 0, 0, 0xffff, high, low] =>
    let mapped : Ipv4Address :=
      ⟨(high / 256).toUInt8, high.toUInt8, (low / 256).toUInt8, low.toUInt8⟩
    s!"::ffff:{mapped}"
  | groups =>
    let (start, length) := longestZeros groups
    if 1 < length then
      writeGroups (groups.take start) ++ "::" ++ writeGroups (groups.drop (start + length))
    else writeGroups groups

instance : ToString Ipv6Address where
  toString := write

end Ipv6Address

end VirtualNet
