import VirtualNet.Address.Socket
import VirtualNet.Json

/-!
# Serialized forms

A type with a serialized form is an instance of `Json.Form`. Reading is as lenient as the form
allows and no more: a number is an integer within the range of its type, a record is an object
with all its fields or an array of them in order, and a variant without content is its name or an
object that maps its name to null. Unknown fields of an object are ignored.
-/

namespace VirtualNet.Json

/-- A type whose values are written as JSON and read back. -/
class Form (α : Type) where
  toJson : α → Json
  ofJson? : Json → Option α

export Form (toJson)

/-- A value of a type from its serialized form. -/
def decode? (α : Type) [Form α] (json : Json) : Option α :=
  Form.ofJson? json

/-- An integer between zero and a bound. -/
def natural? (bound : Nat) : Json → Option Nat
  | .integer value => if 0 ≤ value ∧ value < bound then some value.toNat else none
  | _ => none

instance : Form Bool where
  toJson := .bool
  ofJson?
    | .bool value => some value
    | _ => none

instance : Form UInt8 where
  toJson value := .integer value.toNat
  ofJson? json := (natural? UInt8.size json).map Nat.toUInt8

instance : Form UInt16 where
  toJson value := .integer value.toNat
  ofJson? json := (natural? UInt16.size json).map Nat.toUInt16

instance : Form UInt32 where
  toJson value := .integer value.toNat
  ofJson? json := (natural? UInt32.size json).map Nat.toUInt32

instance : Form UInt64 where
  toJson value := .integer value.toNat
  ofJson? json := (natural? UInt64.size json).map Nat.toUInt64

instance : Form Int32 where
  toJson value := .integer value.toInt
  ofJson?
    | .integer value =>
      if -2147483648 ≤ value ∧ value ≤ 2147483647 then some (Int32.ofInt value) else none
    | _ => none

/-- A payload is written as an array of its octets and may also be read from a string. -/
instance : Form Bytes where
  toJson bytes := .array (bytes.map toJson)
  ofJson?
    | .array elements => elements.mapM (decode? UInt8)
    | .string text => some text.toUTF8.toList
    | _ => none

instance : Form Ipv4Address where
  toJson address := .string (toString address)
  ofJson?
    | .string text => Ipv4Address.ofString? text
    | _ => none

instance : Form SocketAddress where
  toJson address := .string address.write
  ofJson?
    | .string text => SocketAddress.ofString? text
    | _ => none

/-- The fields of a record by their names. -/
structure Record where
  fields : List (String × Json)

/-- The fields of a record that is an object, or an array of as many values as it has fields. -/
def record? (names : List String) : Json → Option Record
  | .object members => some ⟨members⟩
  | .array elements =>
    if elements.length = names.length then some ⟨names.zip elements⟩ else none
  | _ => none

/-- A field that must be there. -/
def Record.field? {α : Type} [Form α] (record : Record) (name : String) : Option α :=
  (record.fields.lookup name).bind (decode? α)

/-- A field that may be missing or null. -/
def Record.optionalField? {α : Type} [Form α] (record : Record) (name : String) :
    Option (Option α) :=
  match record.fields.lookup name with
  | none => some none
  | some .null => some none
  | some json => (decode? α json).map some

/-- The name of a variant without content. -/
def variant? : Json → Option String
  | .string name => some name
  | .object [(name, .null)] => some name
  | _ => none

end VirtualNet.Json
