import VirtualNet.Client
import VirtualNet.CommandLine.Arguments
import VirtualNet.CommandLine.Report
import VirtualNet.Server
import VirtualNet.Text.Blank
import VirtualNet.Text.Lines
import VirtualNet.Text.Number

/-!
# The guess tool

`guess server` runs a game server and `guess client` plays against one. The client reads a line,
sends the number on it over a connection of its own, and prints how it fared; a line that is no
number is reported and skipped, the line `q` ends the game, and so does the first failure.
-/

namespace VirtualNet.CommandLine.GuessTool

/-- A command of the tool. -/
inductive Command where
  | server (config : ServerConfig)
  | client (server : String)
  deriving DecidableEq, Repr

/-- The port that the server listens on. -/
def portOption : ValueOption UInt16 := ⟨"port", some 'p', Text.uint16?⟩

/-- How many connections are served at a time. -/
def maxConnectionsOption : ValueOption UInt64 := ⟨"max-connections", none, Text.uint64?⟩

/-- The least target. -/
def lowerOption : ValueOption Int32 := ⟨"min", none, Text.int32?⟩

/-- One more than the greatest target. -/
def upperOption : ValueOption Int32 := ⟨"max", none, Text.int32?⟩

/-- The name of the flag for sessions that last until the client leaves. -/
def persistentFlag : String := "persistent"

/-- What the server takes. -/
def serverUsage : Usage where
  options := [portOption.spec, .flag persistentFlag, maxConnectionsOption.spec,
    lowerOption.spec, upperOption.spec]
  positionals := 0

/-- What the arguments of the server ask for. -/
def serverConfig (arguments : Arguments) : ServerConfig where
  bindAddress := .v4 Ipv4Address.unspecified ((arguments.value? portOption).getD 8888)
  maxConnections := arguments.value? maxConnectionsOption
  sessionMode := if arguments.hasFlag persistentFlag then .persistent else .singleGuess
  range := {
    lower := (arguments.value? lowerOption).getD TargetRange.default.lower
    upper := (arguments.value? upperOption).getD TargetRange.default.upper }

/-- Reads a command line of the tool. -/
def command : List String → Except Stop Command
  | "server" :: words => do return .server (serverConfig (← Arguments.read serverUsage words))
  | "client" :: words => do
    let arguments ← Arguments.read ⟨[], 1⟩ words
    return .client (arguments.positionals.headD "")
  | words => Arguments.noCommand words

/-- Serves clients one after another, each by what its connection does. -/
def serveAll (server : Server) (peer : String) :
    List Transport → Server × List Session × List LogEntry
  | [] => (server, [], [])
  | transport :: rest =>
    let (server, session, entries) := server.serve peer transport
    let (server, sessions, later) := serveAll server peer rest
    (server, session :: sessions, entries ++ later)

/--
Runs a server at the given address until it is told to stop. The sessions that it served are given
beside its report; there are none if it did not come to listen.
-/
def serverReport (config : ServerConfig) (draws : List Int32) (address peer : String)
    (connections : List Transport) : Report × Option (List Session) :=
  match Server.bind config draws with
  | .error (.config cause) => (.failure [] (ServerError.config cause).message, none)
  | .error .tooManySlots =>
    (.brokenOff [.log (Server.listening address)] ServerError.tooManySlots.message, some [])
  | .ok server =>
    let (_, sessions, entries) := serveAll server peer connections
    let entries := Server.listening address :: entries ++ [Server.shuttingDown]
    (⟨0, entries.map .log⟩, some sessions)

/-- What a line of the player asks for. -/
inductive Entry where
  | guess (number : Int32)
  | quit
  | other (text : String)
  deriving DecidableEq, Repr

/-- Reads a line of the player without the blanks at its ends. -/
def entry (line : String) : Entry :=
  let text := Text.trim line
  if text = "q" then .quit
  else
    match Text.int32? text with
    | some number => .guess number
    | none => .other text

/-- What the player is asked. -/
def prompt : Emission := .output "Enter a guess: "

/-- What the player is told of a guess. -/
def verdict (number : Int32) : Outcome → String
  | .lower => s!"Wrong! {number} is too high"
  | .higher => s!"Wrong! {number} is too low"
  | .hit => "Yay, you won!!"

/-- What is reported of input that is not text. -/
def malformedInput : String := "stream did not contain valid UTF-8"

section Playing

variable {State : Type} (ask : State → Int32 → Except FramingError Outcome × State)

/--
Plays the lines of the input; `ask` makes one guess over a connection of its own. A line that is
`none` is not text.
-/
def play (state : State) : List (Option String) → Report × State
  | [] => (⟨0, [prompt]⟩, state)
  | none :: _ => (.failure [prompt] malformedInput, state)
  | some line :: rest =>
    match entry line with
    | .quit => (⟨0, [prompt, .line "Exiting."]⟩, state)
    | .other text =>
      let (report, state) := play state rest
      ({ report with
          emissions := [prompt, .line s!"Not a number: {text}"] ++ report.emissions }, state)
    | .guess number =>
      let sending : List Emission := [prompt, .log ⟨.info, s!"Sending guess: {number}"⟩]
      match ask state number with
      | (.error error, state) => (.failure sending error.message, state)
      | (.ok outcome, state) =>
        let (report, state) := play state rest
        ({ report with
            emissions := sending ++ [.line (verdict number outcome)] ++ report.emissions },
          state)

end Playing

end VirtualNet.CommandLine.GuessTool
