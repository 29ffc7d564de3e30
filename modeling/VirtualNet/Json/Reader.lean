import VirtualNet.Json
import VirtualNet.Text.Number

/-!
# Reading JSON text

`Json.read?` reads a whole text as one value. Of two members with one key the later wins. A number
is an integer if it has neither fraction nor exponent; a negative zero counts as a fraction,
because no integer is written that way.
-/

namespace VirtualNet.Json

namespace Reader

/-- Whether a character may stand between the parts of a value. -/
def isBlank (char : Char) : Bool :=
  char = ' ' ∨ char = '\t' ∨ char = '\n' ∨ char = '\r'

/-- What follows the blanks at the front of a text. -/
def skipBlanks (text : List Char) : List Char :=
  text.dropWhile isBlank

/-- The number that four hexadecimal digits spell. -/
def codeUnit? (first second third fourth : Char) : Option Nat := do
  return Text.ofDigits 16
    [← Text.hexDigit? first, ← Text.hexDigit? second, ← Text.hexDigit? third,
      ← Text.hexDigit? fourth]

/-- The character that a letter after a backslash stands for. -/
def escape? : Char → Option Char
  | '"' => some '"'
  | '\\' => some '\\'
  | '/' => some '/'
  | 'b' => some '\x08'
  | 'f' => some '\x0c'
  | 'n' => some '\n'
  | 'r' => some '\r'
  | 't' => some '\t'
  | _ => none

/-- Reads a string after its opening quote; `taken` holds its characters so far, last first. -/
def readString? (taken : List Char) : List Char → Option (String × List Char)
  | '"' :: rest => some (String.ofList taken.reverse, rest)
  | '\\' :: 'u' :: a :: b :: c :: d :: '\\' :: 'u' :: e :: f :: g :: h :: rest =>
    match codeUnit? a b c d, codeUnit? e f g h with
    | some high, some low =>
      if 0xD800 ≤ high ∧ high < 0xDC00 then
        if 0xDC00 ≤ low ∧ low < 0xE000 then
          readString?
            (Char.ofNat (0x10000 + (high - 0xD800) * 0x400 + (low - 0xDC00)) :: taken) rest
        else none
      else if 0xDC00 ≤ high ∧ high < 0xE000 then none
      else readString? (Char.ofNat high :: taken) ('\\' :: 'u' :: e :: f :: g :: h :: rest)
    | _, _ => none
  | '\\' :: 'u' :: a :: b :: c :: d :: rest =>
    match codeUnit? a b c d with
    | some unit =>
      if 0xD800 ≤ unit ∧ unit < 0xE000 then none else readString? (Char.ofNat unit :: taken) rest
    | none => none
  | '\\' :: letter :: rest =>
    match escape? letter with
    | some char => readString? (char :: taken) rest
    | none => none
  | char :: rest => if char.toNat < 32 then none else readString? (char :: taken) rest
  | [] => none

/-- Whether a character may stand in a number. -/
def isNumberChar (char : Char) : Bool :=
  char.isDigit ∨ char = '-' ∨ char = '+' ∨ char = '.' ∨ char = 'e' ∨ char = 'E'

/-- Passes over digits, of which there must be one. -/
def afterDigits? (text : List Char) : Option (List Char) :=
  match Text.digits Text.decimalDigit? text with
  | ([], _) => none
  | (_, rest) => some rest

/-- Passes over an exponent, if there is one. -/
def afterExponent? : List Char → Option (List Char)
  | letter :: text =>
    if letter = 'e' ∨ letter = 'E' then
      match text with
      | '+' :: rest => afterDigits? rest
      | '-' :: rest => afterDigits? rest
      | rest => afterDigits? rest
    else some (letter :: text)
  | [] => some []

/-- Passes over a fraction and an exponent, if there are such. -/
def afterFraction? : List Char → Option (List Char)
  | '.' :: text => (afterDigits? text).bind afterExponent?
  | text => afterExponent? text

/-- The value of an unsigned number with its spelling, which has no superfluous leading zero. -/
def unsignedNumber? (negative : Bool) (text : List Char) : Option Json :=
  let spelling := String.ofList (if negative then '-' :: text else text)
  match Text.digits Text.decimalDigit? text with
  | ([], _) => none
  | (0 :: _ :: _, _) => none
  | (values, []) =>
    let magnitude : Int := Text.ofDigits 10 values
    if negative ∧ magnitude = 0 then some (.decimal spelling)
    else some (.integer (if negative then -magnitude else magnitude))
  | (_, rest) => if afterFraction? rest = some [] then some (.decimal spelling) else none

/-- The value of a number with its spelling. -/
def number? : List Char → Option Json
  | '-' :: text => unsignedNumber? true text
  | text => unsignedNumber? false text

/-- Adds a member, in place of an earlier one with the same key. -/
def putMember (members : List (String × Json)) (key : String) (value : Json) :
    List (String × Json) :=
  members.filter (·.1 ≠ key) ++ [(key, value)]

mutual

/-- Reads a value from the front of a text. Every call of these readers costs one unit of fuel. -/
def readValue? : Nat → List Char → Option (Json × List Char)
  | 0, _ => none
  | fuel + 1, text =>
    match skipBlanks text with
    | 'n' :: 'u' :: 'l' :: 'l' :: rest => some (.null, rest)
    | 't' :: 'r' :: 'u' :: 'e' :: rest => some (.bool true, rest)
    | 'f' :: 'a' :: 'l' :: 's' :: 'e' :: rest => some (.bool false, rest)
    | '"' :: rest => (readString? [] rest).map fun (value, rest) => (.string value, rest)
    | '[' :: rest =>
      match skipBlanks rest with
      | ']' :: rest => some (.array [], rest)
      | rest => readElements? fuel [] rest
    | '\x7b' :: rest =>
      match skipBlanks rest with
      | '\x7d' :: rest => some (.object [], rest)
      | rest => readMembers? fuel [] rest
    | text =>
      (number? (text.takeWhile isNumberChar)).map (·, text.dropWhile isNumberChar)

/-- Reads the elements of an array up to its bracket; `taken` holds those read, last first. -/
def readElements? : Nat → List Json → List Char → Option (Json × List Char)
  | 0, _, _ => none
  | fuel + 1, taken, text =>
    match readValue? fuel text with
    | none => none
    | some (element, rest) =>
      match skipBlanks rest with
      | ',' :: rest => readElements? fuel (element :: taken) rest
      | ']' :: rest => some (.array (element :: taken).reverse, rest)
      | _ => none

/-- Reads the members of an object up to its brace. -/
def readMembers? : Nat → List (String × Json) → List Char → Option (Json × List Char)
  | 0, _, _ => none
  | fuel + 1, taken, text =>
    match skipBlanks text with
    | '"' :: rest =>
      match readString? [] rest with
      | none => none
      | some (key, rest) =>
        match skipBlanks rest with
        | ':' :: rest =>
          match readValue? fuel rest with
          | none => none
          | some (value, rest) =>
            match skipBlanks rest with
            | ',' :: rest => readMembers? fuel (putMember taken key value) rest
            | '\x7d' :: rest => some (.object (putMember taken key value), rest)
            | _ => none
        | _ => none
    | _ => none

end

end Reader

/-- Reads a whole text as one value; no value needs more calls than the text has characters. -/
def read? (text : String) : Option Json :=
  match Reader.readValue? (text.length + 1) text.toList with
  | some (json, rest) => if Reader.skipBlanks rest = [] then some json else none
  | none => none

end VirtualNet.Json
