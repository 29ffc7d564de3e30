import VirtualNet.Framing

/-!
# Exchanging messages by polling

A polled transfer of a message remembers how far it has come. One poll goes on until the transfer
is decided or the transport is not ready; in the second case control is handed back with the state
of the transfer, and the transfer is polled again later.

`Transport.receivePolled` and `Transport.sendPolled` poll a transfer until it is decided.
-/

namespace VirtualNet

/-- What one poll of a transfer leads to. -/
inductive Poll (State Result : Type) where
  | ready (result : Result)
  | pending (state : State)
  deriving DecidableEq, Repr

namespace Framing

/-- Polls the reception of a message of which `received` has arrived. -/
def pollRead (received : Bytes) :
    List Arrival → Poll Bytes (Except FramingError Message) × List Arrival
  | [] => (.ready (.error (.connectionClosed received.length)), [])
  | .bytes data :: rest =>
    let room := Message.wireLength - received.length
    if data.length = 0 then (.ready (.error (.connectionClosed received.length)), rest)
    else if data.length < room then pollRead (received ++ data) rest
    else (.ready (Message.decode (received ++ data.take room)), afterTaking room data rest)
  | .failure error :: rest =>
    if error.kind = .interrupted then pollRead received rest
    else (.ready (.error (.transport error)), rest)
  | .notReady :: rest => (.pending received, rest)

/-- How far a polled write has come. -/
structure Writing where
  accepted : Bytes
  left : Bytes
  deriving DecidableEq, Repr

/-- Polls the writing of a message. -/
def pollWrite (accepted left : Bytes) : List Acceptance →
    Poll Writing (Except FramingError Unit × Bytes) × List Acceptance
  | [] => (.ready (.ok (), accepted ++ left), [])
  | .whole :: rest => (.ready (.ok (), accepted ++ left), rest)
  | .upTo limit :: rest =>
    if limit = 0 then
      (.ready (.error (.incompleteWrite accepted.length (accepted.length + left.length)),
        accepted), rest)
    else if limit < left.length then
      pollWrite (accepted ++ left.take limit) (left.drop limit) rest
    else (.ready (.ok (), accepted ++ left), rest)
  | .failure error :: rest =>
    if error.kind = .interrupted then pollWrite accepted left rest
    else (.ready (.error (.transport error), accepted), rest)
  | .notReady :: rest => (.pending ⟨accepted, left⟩, rest)

/-- Polls a flush; one that is not ready is tried again with the next event. -/
def pollFlush : List Flush → Poll Unit (Except FramingError Unit) × List Flush
  | [] => (.ready (.ok ()), [])
  | .done :: rest => (.ready (.ok ()), rest)
  | .failure error :: rest => (.ready (.error (.transport error)), rest)
  | .notReady :: rest => (.pending (), rest)

/-- A poll that finds the transport not ready has used an arrival up. -/
theorem length_lt_of_pollRead_eq_pending {received received' : Bytes} {reads rest : List Arrival}
    (pending : pollRead received reads = (.pending received', rest)) :
    rest.length < reads.length := by
  fun_induction pollRead received reads <;> simp_all <;> omega

/-- A poll that finds the transport not ready has used an acceptance up. -/
theorem length_lt_of_pollWrite_eq_pending {accepted left : Bytes} {writing : Writing}
    {writes rest : List Acceptance}
    (pending : pollWrite accepted left writes = (.pending writing, rest)) :
    rest.length < writes.length := by
  fun_induction pollWrite accepted left writes <;> simp_all <;> omega

/-- A poll that finds the transport not ready has used a flush up. -/
theorem length_lt_of_pollFlush_eq_pending {flushes rest : List Flush}
    (pending : pollFlush flushes = (.pending (), rest)) : rest.length < flushes.length := by
  unfold pollFlush at pending
  split at pending <;> simp_all

/-- Polls the reception of a message until it is decided. -/
def awaitRead (received : Bytes) (reads : List Arrival) :
    Except FramingError Message × List Arrival :=
  match _ : pollRead received reads with
  | (.ready result, rest) => (result, rest)
  | (.pending received, rest) => awaitRead received rest
termination_by reads.length
decreasing_by exact length_lt_of_pollRead_eq_pending (by assumption)

/-- Polls the writing of a message until it is decided. -/
def awaitWrite (accepted left : Bytes) (writes : List Acceptance) :
    Except FramingError Unit × Bytes × List Acceptance :=
  match _ : pollWrite accepted left writes with
  | (.ready (result, accepted), rest) => (result, accepted, rest)
  | (.pending writing, rest) => awaitWrite writing.accepted writing.left rest
termination_by writes.length
decreasing_by exact length_lt_of_pollWrite_eq_pending (by assumption)

/-- Polls a flush until it is decided. -/
def awaitFlush (flushes : List Flush) : Except FramingError Unit × List Flush :=
  match _ : pollFlush flushes with
  | (.ready result, rest) => (result, rest)
  | (.pending (), rest) => awaitFlush rest
termination_by flushes.length
decreasing_by exact length_lt_of_pollFlush_eq_pending (by assumption)

end Framing

namespace Transport

/-- Receives one message by polling. -/
def receivePolled (transport : Transport) : Except FramingError Message × Transport :=
  let (result, reads) := Framing.awaitRead [] transport.reads
  (result, { transport with reads := reads })

/-- Sends one message by polling and flushes. -/
def sendPolled (transport : Transport) (message : Message) :
    Except FramingError Unit × Transport :=
  let (result, accepted, writes) := Framing.awaitWrite [] message.encode transport.writes
  let transport := { transport with writes := writes, written := transport.written ++ accepted }
  match result with
  | .error error => (.error error, transport)
  | .ok () =>
    let (result, flushes) := Framing.awaitFlush transport.flushes
    (result, { transport with flushes := flushes })

end Transport

end VirtualNet
