import VirtualNet.Client
import VirtualNet.Session

/-!
# Conversations between a client and a session

A reliable stream hands over every octet in order, in pieces of its own choice and with
interruptions and pauses between them: `Piece.deliver` tells what the reader meets. A conversation
joins one client to the session that serves it by two such streams. In one exchange the client
sends a guess, the session takes the three steps that receive, submit and answer it, and the client
hears the response. A session that has finished answers nothing more, so the client then finds the
end of the stream.
-/

namespace VirtualNet

/-- One piece of what a reliable stream hands over. -/
inductive Piece where
  /-- So many octets and one more. -/
  | octets (more : Nat)
  | interruption (text : String)
  | pause
  deriving DecidableEq, Repr

namespace Piece

/-- What the reader of a stream meets; octets beyond the last piece come all at once. -/
def deliver : List Piece → Bytes → List Arrival
  | [], bytes => if bytes = [] then [] else [.bytes bytes]
  | .octets more :: pieces, bytes =>
    if bytes = [] then deliver pieces []
    else .bytes (bytes.take (more + 1)) :: deliver pieces (bytes.drop (more + 1))
  | .interruption text :: pieces, bytes =>
    .failure ⟨.interrupted, text⟩ :: deliver pieces bytes
  | .pause :: pieces, bytes => .notReady :: deliver pieces bytes

end Piece

/-- How one exchange passes over the streams of a conversation. -/
structure Exchange where
  requestWrites : List Acceptance
  requestPieces : List Piece
  responseWrites : List Acceptance
  responsePieces : List Piece
  deriving DecidableEq, Repr

/-- An exchange whose messages pass whole. -/
def Exchange.whole : Exchange := ⟨[], [], [], []⟩

/-- A session, the game that it plays, and the client at the other end of its connection. -/
structure Conversation where
  session : Session
  game : Game

namespace Conversation

/-- A conversation before its first exchange. -/
def start (mode : SessionMode) (game : Game) : Conversation :=
  ⟨Session.start mode (Transport.ofReads []), game⟩

/-- The conversation after some steps of its session. -/
def steps (conversation : Conversation) : Nat → Conversation
  | 0 => conversation
  | count + 1 =>
    let (session, game) := conversation.session.step conversation.game
    steps ⟨session, game⟩ count

/-- The client makes one guess. -/
def guess (conversation : Conversation) (exchange : Exchange) (number : Int32) :
    Except FramingError Outcome × Conversation :=
  let client : Transport := ⟨[], exchange.requestWrites, [], []⟩
  let (asked, client) := Client.ask client number
  let session := conversation.session
  let served : Transport :=
    { session.transport with
      reads := session.transport.reads ++ Piece.deliver exchange.requestPieces client.written
      writes := exchange.responseWrites }
  let next := steps { conversation with session := { session with transport := served } } 3
  let response := next.session.transport.written.drop served.written.length
  match asked with
  | .error error => (.error error, next)
  | .ok () =>
    ((Client.hear (Transport.ofReads (Piece.deliver exchange.responsePieces response))).1, next)

/-- The client makes guesses one after another. -/
def guesses (conversation : Conversation) :
    List (Exchange × Int32) → List (Except FramingError Outcome) × Conversation
  | [] => ([], conversation)
  | (exchange, number) :: rest =>
    let (outcome, conversation) := conversation.guess exchange number
    let (outcomes, conversation) := conversation.guesses rest
    (outcome :: outcomes, conversation)

/-- The client leaves, and the session ends. -/
def leave (conversation : Conversation) : Except SessionError Nat × Session × Game :=
  conversation.session.run conversation.game

end Conversation

end VirtualNet
