import VirtualNet.Text.Utf8

/-!
# Lines of input

Input is split at line feeds. A line does not include its line feed, nor a carriage return right
before it; octets after the last line feed are a line of their own, which keeps a carriage return
at its end.
-/

namespace VirtualNet.Text

/-- A line without a carriage return at its end. -/
def withoutReturn (line : Bytes) : Bytes :=
  if line.getLast? = some 13 then line.dropLast else line

/-- The lines of an input; `taken` holds the octets of the current line, last first. -/
def splitLines (taken : Bytes) : Bytes → List Bytes
  | [] => if taken = [] then [] else [taken.reverse]
  | octet :: rest =>
    if octet = 10 then withoutReturn taken.reverse :: splitLines [] rest
    else splitLines (octet :: taken) rest

/-- The lines of an input as texts; `none` stands for a line that is not well-formed UTF-8. -/
def lines (input : Bytes) : List (Option String) :=
  (splitLines [] input).map Utf8.strict?

end VirtualNet.Text
