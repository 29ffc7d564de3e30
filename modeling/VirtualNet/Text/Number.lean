/-!
# Numbers in text

A number is read from the front of a text as the longest run of digits of its base. On top of
that, `Text.natural?` and `Text.integer?` read a whole text as a decimal number, the second with an
optional sign. Only the ASCII digits count.
-/

namespace VirtualNet

namespace Text

/-- The value of a hexadecimal digit in either case. -/
def hexDigit? (char : Char) : Option Nat :=
  if char.isDigit then some (char.toNat - '0'.toNat)
  else if 'a' ≤ char ∧ char ≤ 'f' then some (char.toNat - 'a'.toNat + 10)
  else if 'A' ≤ char ∧ char ≤ 'F' then some (char.toNat - 'A'.toNat + 10)
  else none

/-- The value of a decimal digit. -/
def decimalDigit? (char : Char) : Option Nat :=
  if char.isDigit then some (char.toNat - '0'.toNat) else none

/-- The longest run of digits at the front of a text, and what follows it. -/
def digits (digit? : Char → Option Nat) : List Char → List Nat × List Char
  | [] => ([], [])
  | char :: rest =>
    match digit? char with
    | some value => (value :: (digits digit? rest).1, (digits digit? rest).2)
    | none => ([], char :: rest)

/-- The number that digits spell in a base, most significant first. -/
def ofDigits (base : Nat) (values : List Nat) : Nat :=
  values.foldl (fun number value => number * base + value) 0

/-- A whole text read as one or more decimal digits. -/
def natural? (text : List Char) : Option Nat :=
  match digits decimalDigit? text with
  | ([], _) => none
  | (values, []) => some (ofDigits 10 values)
  | _ => none

/-- A whole text read as decimal digits after an optional plus sign. -/
def unsigned? : List Char → Option Nat
  | '+' :: rest => natural? rest
  | text => natural? text

/-- A whole text read as decimal digits after an optional sign. -/
def integer? : List Char → Option Int
  | '-' :: rest => (natural? rest).map fun value => -(value : Int)
  | text => (unsigned? text).map Int.ofNat

/-- A whole text read as an integer between two bounds. -/
def integerWithin? (least greatest : Int) (text : String) : Option Int :=
  (integer? text.toList).filter fun value => least ≤ value ∧ value ≤ greatest

/-- A whole text read as a signed 32-bit number. -/
def int32? (text : String) : Option Int32 :=
  (integerWithin? (-2147483648) 2147483647 text).map Int32.ofInt

/-- A whole text read as an unsigned 8-bit number, which may have a sign. -/
def uint8? (text : String) : Option UInt8 :=
  (integerWithin? 0 255 text).map fun value => value.toNat.toUInt8

/-- A whole text read as an unsigned 16-bit number, which may have a sign. -/
def uint16? (text : String) : Option UInt16 :=
  (integerWithin? 0 65535 text).map fun value => value.toNat.toUInt16

/-- A whole text read as an unsigned 64-bit number, which may have a plus sign. -/
def uint64? (text : String) : Option UInt64 :=
  ((unsigned? text.toList).filter (· < UInt64.size)).map Nat.toUInt64

/-- The lower-case hexadecimal digits of a number, without leading zeros. -/
def hexadecimal (number : Nat) : String :=
  String.ofList (Nat.toDigits 16 number)

end Text

end VirtualNet
