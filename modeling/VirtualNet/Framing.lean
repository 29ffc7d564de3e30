import VirtualNet.Message
import VirtualNet.Transport

/-!
# Exchanging messages over a transport

A message is received from as many reads as it takes and sent in as many writes as it takes; an
interrupted read or write is tried again. `Transport.receive` uses up the arrivals of one message
and no more. `Transport.send` writes a prefix of the message and says how much of it was accepted
where the whole was not.

Calls of this module block: a call that finds the transport not ready waits.
-/

namespace VirtualNet

namespace Framing

/-- What is left of the arrivals when so many octets of the first of them were taken. -/
def afterTaking (count : Nat) (data : Bytes) (rest : List Arrival) : List Arrival :=
  if data.length ≤ count then rest else .bytes (data.drop count) :: rest

/-- Reads on until a message of which `received` has arrived is complete. -/
def read (received : Bytes) : List Arrival → Except FramingError Message × List Arrival
  | [] => (.error (.connectionClosed received.length), [])
  | .bytes data :: rest =>
    let room := Message.wireLength - received.length
    if data.length = 0 then (.error (.connectionClosed received.length), rest)
    else if data.length < room then read (received ++ data) rest
    else (Message.decode (received ++ data.take room), afterTaking room data rest)
  | .failure error :: rest =>
    if error.kind = .interrupted then read received rest
    else (.error (.transport error), rest)
  | .notReady :: rest => read received rest

/--
Writes on until `left`, the part of a message that is not accepted yet, is accepted. The result
comes with all the octets of the message that were accepted, `accepted` being the first of them.
-/
def write (accepted left : Bytes) :
    List Acceptance → Except FramingError Unit × Bytes × List Acceptance
  | [] => (.ok (), accepted ++ left, [])
  | .whole :: rest => (.ok (), accepted ++ left, rest)
  | .upTo limit :: rest =>
    if limit = 0 then
      (.error (.incompleteWrite accepted.length (accepted.length + left.length)), accepted, rest)
    else if limit < left.length then
      write (accepted ++ left.take limit) (left.drop limit) rest
    else (.ok (), accepted ++ left, rest)
  | .failure error :: rest =>
    if error.kind = .interrupted then write accepted left rest
    else (.error (.transport error), accepted, rest)
  | .notReady :: rest => write accepted left rest

/-- Flushes once; a flush is not tried again. -/
def flush : List Flush → Except FramingError Unit × List Flush
  | [] => (.ok (), [])
  | .failure error :: rest => (.error (.transport error), rest)
  | _ :: rest => (.ok (), rest)

end Framing

namespace Transport

/-- Receives one message. -/
def receive (transport : Transport) : Except FramingError Message × Transport :=
  let (result, reads) := Framing.read [] transport.reads
  (result, { transport with reads := reads })

/-- Sends one message and flushes. -/
def send (transport : Transport) (message : Message) : Except FramingError Unit × Transport :=
  let (result, accepted, writes) := Framing.write [] message.encode transport.writes
  let transport := { transport with writes := writes, written := transport.written ++ accepted }
  match result with
  | .error error => (.error error, transport)
  | .ok () =>
    let (result, flushes) := Framing.flush transport.flushes
    (result, { transport with flushes := flushes })

end Transport

end VirtualNet
