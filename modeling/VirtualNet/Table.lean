import VirtualNet.Session

/-!
# Sessions around one game

Any number of sessions share a game and take turns at it. A turn polls the message that a session
is receiving or sending once, which touches its own transport only, or submits one guess. Where a
poll finds the transport not ready, the session keeps how far it has come, and others may have their
turns before it is polled again. Turns are given in any order, and a session that is given no more
of them stays as it is. So a list of clients with a list of turns stands for every way in which
sessions can run side by side, those of clients that connect late and those that are abandoned
included.
-/

namespace VirtualNet

/-- How far a session has come with a message. -/
inductive Transfer where
  /-- No message is on its way. -/
  | idle
  | reading (received : Bytes)
  | writing (progress : Framing.Writing)
  | flushing
  deriving DecidableEq, Repr

/-- The transfer with which a session enters a phase. -/
def Transfer.begin : SessionPhase → Transfer
  | .receiving => .reading []
  | .responding outcome => .writing ⟨[], Message.encode ⟨.response, outcome.wireValue⟩⟩
  | .submitting _ | .finished _ => .idle

/-- A session between two of its turns. -/
structure Task where
  session : Session
  transfer : Transfer

namespace Task

/-- A session that enters its phase. -/
def enter (session : Session) : Task := ⟨session, .begin session.phase⟩

/-- Polls the reception of a guess. -/
def pollReceive (session : Session) (received : Bytes) : Task :=
  let (poll, reads) := Framing.pollRead received session.transport.reads
  let session := { session with transport := { session.transport with reads } }
  match poll with
  | .pending received => ⟨session, .reading received⟩
  | .ready result => enter (session.afterReceiving result)

/-- Polls the writing of a response. -/
def pollSend (session : Session) (progress : Framing.Writing) : Task :=
  let (poll, writes) := Framing.pollWrite progress.accepted progress.left session.transport.writes
  let transport := { session.transport with writes }
  match poll with
  | .pending progress => ⟨{ session with transport }, .writing progress⟩
  | .ready (result, accepted) =>
    let transport := { transport with written := transport.written ++ accepted }
    match result with
    | .ok () => ⟨{ session with transport }, .flushing⟩
    | .error error => enter (Session.afterSending { session with transport } (.error error))

/-- Polls the flush after a response. -/
def pollFlush (session : Session) : Task :=
  let (poll, flushes) := Framing.pollFlush session.transport.flushes
  let session := { session with transport := { session.transport with flushes } }
  match poll with
  | .pending () => ⟨session, .flushing⟩
  | .ready result => enter (session.afterSending result)

/-- One turn. Only a session with no message on its way touches the game. -/
def turn (task : Task) (game : Game) : Task × Game :=
  match task.transfer with
  | .idle =>
    let (session, game) := task.session.step game
    (enter session, game)
  | .reading received => (pollReceive task.session received, game)
  | .writing progress => (pollSend task.session progress, game)
  | .flushing => (pollFlush task.session, game)

/-- So many turns, one after another. -/
def turns (task : Task) (game : Game) : Nat → Task × Game
  | 0 => (task, game)
  | count + 1 =>
    let (task, game) := task.turn game
    task.turns game count

/-- The guess that a session has received and not submitted yet. -/
def pending (task : Task) : List Int32 :=
  match task.session.phase with
  | .submitting guess => [guess]
  | _ => []

/-- All the octets that a session has written. -/
def written (task : Task) : Bytes :=
  match task.transfer with
  | .writing progress => task.session.transport.written ++ progress.accepted
  | _ => task.session.transport.written

end Task

/-- A game and the sessions that share it. -/
structure Table where
  game : Game
  tasks : List Task

namespace Table

/-- The sessions of some clients before their first turns. -/
def start (game : Game) (clients : List (SessionMode × Transport)) : Table :=
  ⟨game, clients.map fun (mode, transport) => Task.enter (Session.start mode transport)⟩

/-- Gives one client's session a turn. -/
def turn (table : Table) (client : Nat) : Table :=
  match table.tasks[client]? with
  | none => table
  | some task =>
    let (task, game) := task.turn table.game
    ⟨game, table.tasks.set client task⟩

/-- Gives turns to the sessions of the listed clients, one after another. -/
def run (table : Table) : List Nat → Table
  | [] => table
  | client :: rest => (table.turn client).run rest

end Table

end VirtualNet
