/-!
# JSON values

The values that serialized forms are made of. A number spelled as an integer is kept apart from
one spelled with a fraction or an exponent, because only the first may stand where an integer is
expected. `Json.write` prints a value.
-/

namespace VirtualNet

/-- A JSON value. -/
inductive Json where
  | null
  | bool (value : Bool)
  | integer (value : Int)
  /-- A number that is not spelled as an integer, as it is spelled. -/
  | decimal (spelling : String)
  | string (value : String)
  | array (elements : List Json)
  /-- The members in order; no key occurs twice in a value that was read. -/
  | object (members : List (String × Json))
  deriving Inhabited

namespace Json

/-- A member of an object by its key. -/
def member? (json : Json) (key : String) : Option Json :=
  match json with
  | .object members => members.lookup key
  | _ => none

/-- A character inside a quoted string. -/
def writeChar (char : Char) : String :=
  if char = '"' then "\\\""
  else if char = '\\' then "\\\\"
  else if char.toNat < 16 then "\\u000" ++ String.ofList (Nat.toDigits 16 char.toNat)
  else if char.toNat < 32 then "\\u00" ++ String.ofList (Nat.toDigits 16 char.toNat)
  else char.toString

/-- A quoted string. -/
def writeString (text : String) : String :=
  text.foldl (fun written char => written ++ writeChar char) "\"" ++ "\""

mutual

/-- The text of a value. -/
def write : Json → String
  | .null => "null"
  | .bool value => toString value
  | .integer value => toString value
  | .decimal spelling => spelling
  | .string value => writeString value
  | .array elements => writeElements "[" elements
  | .object members => writeMembers "\x7b" members

/-- Appends the elements of an array and its closing bracket. -/
def writeElements (written : String) : List Json → String
  | [] => written ++ "]"
  | [last] => written ++ write last ++ "]"
  | first :: rest => writeElements (written ++ write first ++ ",") rest

/-- Appends the members of an object and its closing brace. -/
def writeMembers (written : String) : List (String × Json) → String
  | [] => written ++ "\x7d"
  | [(key, value)] => written ++ writeString key ++ ":" ++ write value ++ "\x7d"
  | (key, value) :: rest =>
    writeMembers (written ++ writeString key ++ ":" ++ write value ++ ",") rest

end

end Json

end VirtualNet
