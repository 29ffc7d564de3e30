import VirtualNet.Config
import VirtualNet.Log
import VirtualNet.Session

/-!
# The game server

A server plays one game with all its clients, a session for each. Its configuration is judged
before its game is started, and a limit on its connections, which takes a slot for each of them,
after it has come to listen. What it logs of a session is read off the finished session: when the
client came, each target that was hit, and how the session ended if not in the ordinary way.
-/

namespace VirtualNet

/-- Why a server was not started. -/
inductive ServerError where
  | config (cause : ConfigError)
  /-- The limit on the connections asks for more slots than can be kept. -/
  | tooManySlots
  deriving DecidableEq, Repr

/-- The most slots for connections that can be kept: the machine word less three bits. -/
def slotLimit : Nat := 2305843009213693951

/-- What is said of a server that was not started. -/
def ServerError.message : ServerError → String
  | .config cause => s!"Invalid configuration: {cause.message}"
  | .tooManySlots => s!"a semaphore may not have more than MAX_PERMITS permits ({slotLimit})"

/-- A bound server. -/
structure Server where
  mode : SessionMode
  game : Game
  /-- How many clients have connected. -/
  clients : Nat

namespace Server

/-- Binds a server around a game that has been started. -/
def withGame (config : ServerConfig) (game : Game) : Except ServerError Server :=
  match config.validate with
  | .error cause => .error (.config cause)
  | .ok () =>
    match config.maxConnections with
    | some limit =>
      if slotLimit < limit.toNat then .error .tooManySlots
      else .ok ⟨config.sessionMode, game, 0⟩
    | none => .ok ⟨config.sessionMode, game, 0⟩

/-- Binds a server and starts its game. -/
def bind (config : ServerConfig) (draws : List Int32) : Except ServerError Server :=
  match config.validate with
  | .error cause => .error (.config cause)
  | .ok () =>
    match Game.create config.range draws with
    | .error cause => .error (.config cause)
    | .ok game => withGame config game

/-- The entry that a server makes when it is bound. -/
def listening (address : String) : LogEntry :=
  ⟨.info, s!"Guess server listening on {address}"⟩

/-- The entry that a server makes when it stops accepting clients. -/
def shuttingDown : LogEntry :=
  ⟨.info, "Guess server shutting down"⟩

/-- The entry for a target that was hit. -/
def roundLog? (submission : Submission) : Option LogEntry :=
  if submission.outcome = .hit then
    some ⟨.info, s!"Target {submission.guess} guessed after {submission.count} guesses, " ++
      "starting a new round"⟩
  else none

/-- The entry for the end of a session. -/
def endLog? (client : Nat) : Except SessionError Nat → Option LogEntry
  | .ok _ => none
  | .error (.framing error) =>
    if error.isConnectionClosed then
      some ⟨.info, s!"Client {client} disconnected: {error.message}"⟩
    else some ⟨.error, s!"Client {client} session failed: {error.message}"⟩
  | .error (.overflow _) => none

/-- Serves the next client. -/
def serve (server : Server) (peer : String) (transport : Transport) :
    Server × Session × List LogEntry :=
  let client := server.clients
  let (result, session, game) := (Session.start server.mode transport).run server.game
  let entries :=
    ⟨.info, s!"Client {client} connected: {peer}"⟩ ::
      (session.submissions.filterMap roundLog? ++ (endLog? client result).toList)
  ({ server with game, clients := client + 1 }, session, entries)

end Server

end VirtualNet
