import VirtualNet.Conversation

/-!
# Visits to a server

A client may open a connection for a single guess and leave when it has heard the response. Every
such visit is served by a session of its own, and all of them play the game of the server. The
client does not wait for the session to notice that it has left: the next visit may come before
that, so the session is put aside with nothing more to come to it.
-/

namespace VirtualNet

/-- A server and the streams over which its visitors will reach it. -/
structure Venue where
  mode : SessionMode
  game : Game
  /-- How the exchanges of the visits to come will pass; beyond the last of them they pass whole. -/
  exchanges : List Exchange
  /-- The sessions whose visitors have left, in the order of their visits. -/
  visited : List Session

namespace Venue

/-- Connects to the server, makes one guess and leaves. -/
def guessOnce (opening : Except IoError Unit) (venue : Venue) (number : Int32) :
    Except FramingError Outcome × Venue :=
  match Client.connect opening with
  | .error error => (.error error, venue)
  | .ok () =>
    let exchange := venue.exchanges.headD .whole
    let (outcome, conversation) := (Conversation.start venue.mode venue.game).guess exchange number
    (outcome,
      { venue with
        game := conversation.game
        exchanges := venue.exchanges.tail
        visited := venue.visited ++ [conversation.session] })

end Venue

end VirtualNet
