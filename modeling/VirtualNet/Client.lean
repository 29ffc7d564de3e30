import VirtualNet.Framing.Polling
import VirtualNet.Game

/-!
# Clients of the guessing game

A client sends a guess over its connection and waits for the response. Both are polled transfers.
-/

namespace VirtualNet.Client

/-- Opens a connection; `opening` is what the system answers to that. -/
def connect (opening : Except IoError Unit) : Except FramingError Unit :=
  match opening with
  | .ok () => .ok ()
  | .error error => .error (.transport error)

/-- Sends a guess. -/
def ask (transport : Transport) (number : Int32) : Except FramingError Unit × Transport :=
  transport.sendPolled ⟨.guess, number⟩

/-- Waits for the response to a guess. -/
def hear (transport : Transport) : Except FramingError Outcome × Transport :=
  let (received, transport) := transport.receivePolled
  let outcome := do
    let response ← (← received).expect .response
    return Outcome.ofWireValue response.number
  (outcome, transport)

/-- Makes one guess on a connection. -/
def guess (transport : Transport) (number : Int32) : Except FramingError Outcome × Transport :=
  match ask transport number with
  | (.error error, transport) => (.error error, transport)
  | (.ok (), transport) => hear transport

/-- Makes guesses one after another on a connection, going on after a failure. -/
def guesses (transport : Transport) : List Int32 → List (Except FramingError Outcome) × Transport
  | [] => ([], transport)
  | number :: rest =>
    let (outcome, transport) := guess transport number
    let (outcomes, transport) := guesses transport rest
    (outcome :: outcomes, transport)

/-- Connects, makes one guess and leaves; `transport` is what the connection would do. -/
def guessOnce (opening : Except IoError Unit) (transport : Transport) (number : Int32) :
    Except FramingError Outcome × Transport :=
  match connect opening with
  | .error error => (.error error, transport)
  | .ok () => guess transport number

end VirtualNet.Client
