import VirtualNet.Bytes

/-!
# Decoding UTF-8

Octets are decoded one at a time. A first octet tells how many more a character has and between
which bounds the second lies, which keeps out overlong forms, surrogates and numbers beyond the
last character. `Utf8.decode` yields a character for every well-formed sequence, and nothing in
the place of the longest part of one that is broken off. `Utf8.lossy` fills such places with the
replacement character; `Utf8.strict?` refuses them.
-/

namespace VirtualNet.Text.Utf8

/-- A character of which `missing` octets have not come; the next lies between the bounds. -/
structure Started where
  value : Nat
  missing : Nat
  least : UInt8
  greatest : UInt8

/-- What a first octet leads to. -/
inductive Lead where
  | complete (char : Char)
  | started (part : Started)
  | malformed

/-- Reads a first octet. -/
def lead (octet : UInt8) : Lead :=
  let number := octet.toNat
  if number < 0x80 then .complete (Char.ofNat number)
  else if number < 0xC2 then .malformed
  else if number < 0xE0 then .started ⟨number - 0xC0, 1, 0x80, 0xBF⟩
  else if number = 0xE0 then .started ⟨0, 2, 0xA0, 0xBF⟩
  else if number = 0xED then .started ⟨0xD, 2, 0x80, 0x9F⟩
  else if number < 0xF0 then .started ⟨number - 0xE0, 2, 0x80, 0xBF⟩
  else if number = 0xF0 then .started ⟨0, 3, 0x90, 0xBF⟩
  else if number < 0xF4 then .started ⟨number - 0xF0, 3, 0x80, 0xBF⟩
  else if number = 0xF4 then .started ⟨4, 3, 0x80, 0x8F⟩
  else .malformed

/-- The characters of a string of octets; `none` stands for each part that is not well formed. -/
def decode (pending : Option Started) : Bytes → List (Option Char)
  | [] => if pending.isSome then [none] else []
  | octet :: rest =>
    let broken : List (Option Char) := if pending.isSome then [none] else []
    match pending.filter fun part => part.least ≤ octet ∧ octet ≤ part.greatest with
    | some part =>
      let value := part.value * 64 + (octet.toNat - 0x80)
      if part.missing = 1 then some (Char.ofNat value) :: decode none rest
      else decode (some ⟨value, part.missing - 1, 0x80, 0xBF⟩) rest
    | none =>
      match lead octet with
      | .complete char => broken ++ some char :: decode none rest
      | .started part => broken ++ decode (some part) rest
      | .malformed => broken ++ none :: decode none rest

/-- The text of a string of octets, with a replacement character for each malformed part. -/
def lossy (bytes : Bytes) : String :=
  String.ofList ((decode none bytes).map (·.getD '\uFFFD'))

/-- The text of a string of octets that is well formed throughout. -/
def strict? (bytes : Bytes) : Option String :=
  ((decode none bytes).mapM id).map String.ofList

end VirtualNet.Text.Utf8
