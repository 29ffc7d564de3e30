import VirtualNet.Framing.Polling
import VirtualNet.Game

/-!
# Sessions of the guessing game

A session serves one client on a transport. It receives a guess, submits it to the game and sends
the outcome back, once or until the client leaves. Each of these is one step of the session, so
that sessions which share a game may take their steps in any order; `Session.run` takes the steps
of one session until it is finished.

A client that leaves between two messages of a persistent session ends it in the ordinary way, if
a guess of its was answered. Everything else that keeps a guess from being received or answered is
a failure of the session.
-/

namespace VirtualNet

/-- How many guesses a connection may make. -/
inductive SessionMode where
  /-- One guess and one response; then the connection is closed. -/
  | singleGuess
  /-- Guesses are answered until the client leaves. -/
  | persistent
  deriving DecidableEq, Repr

/-- Why a session failed. -/
inductive SessionError where
  | framing (error : FramingError)
  /-- A counter of the game has no room for another guess. -/
  | overflow (cause : Overflow)
  deriving DecidableEq, Repr

/-- A guess that a session submitted, and what came of it. -/
structure Submission where
  guess : Int32
  outcome : Outcome
  /-- The guesses of the round so far, this one included. -/
  count : UInt64
  deriving DecidableEq, Repr

/-- What a session does next. -/
inductive SessionPhase where
  | receiving
  | submitting (guess : Int32)
  | responding (outcome : Outcome)
  /-- The session is over, with the number of guesses that it answered if it did not fail. -/
  | finished (result : Except SessionError Nat)

/-- A session between two of its steps. -/
structure Session where
  mode : SessionMode
  transport : Transport
  phase : SessionPhase
  answered : Nat
  /-- The guesses submitted so far, in order. -/
  submissions : List Submission

namespace Session

/-- A session on a transport before its first step. -/
def start (mode : SessionMode) (transport : Transport) : Session :=
  ⟨mode, transport, .receiving, 0, []⟩

/-- How the session ended, once it is finished. -/
def result? (session : Session) : Option (Except SessionError Nat) :=
  match session.phase with
  | .finished result => some result
  | _ => none

/-- The session after its end. -/
def finish (session : Session) (result : Except SessionError Nat) : Session :=
  { session with phase := .finished result }

/-- The session when the message that it waited for has come, or none has. -/
def afterReceiving (session : Session) : Except FramingError Message → Session
  | .ok message =>
    match message.expect .guess with
    | .ok guess => { session with phase := .submitting guess.number }
    | .error error => session.finish (.error (.framing error))
  | .error error =>
    if error = .connectionClosed 0 ∧ session.mode = .persistent ∧ 0 < session.answered then
      session.finish (.ok session.answered)
    else session.finish (.error (.framing error))

/-- Receives the next guess. -/
def receive (session : Session) : Session :=
  let (received, transport) := session.transport.receivePolled
  afterReceiving { session with transport := transport } received

/-- Submits a guess to the game. -/
def submit (session : Session) (game : Game) (guess : Int32) : Session × Game :=
  match game.submit guess with
  | .ok (outcome, next) =>
    ({ session with
        phase := .responding outcome
        submissions := session.submissions ++ [⟨guess, outcome, game.totalGuesses + 1⟩] },
      next)
  | .error cause => (session.finish (.error (.overflow cause)), game)

/-- The session when its response has been sent, or could not be. -/
def afterSending (session : Session) : Except FramingError Unit → Session
  | .ok () =>
    let answered := session.answered + 1
    let phase :=
      match session.mode with
      | .singleGuess => .finished (.ok answered)
      | .persistent => .receiving
    { session with answered := answered, phase := phase }
  | .error error => session.finish (.error (.framing error))

/-- Sends an outcome back. -/
def respond (session : Session) (outcome : Outcome) : Session :=
  let (sent, transport) := session.transport.sendPolled ⟨.response, outcome.wireValue⟩
  afterSending { session with transport := transport } sent

/-- The next step of a session; a finished session takes none. -/
def step (session : Session) (game : Game) : Session × Game :=
  match session.phase with
  | .receiving => (session.receive, game)
  | .submitting guess => session.submit game guess
  | .responding outcome => (session.respond outcome, game)
  | .finished _ => (session, game)

end Session

/-- How much a list of arrivals holds: every arrival counts one more than its octets. -/
def Arrival.total : List Arrival → Nat
  | [] => 0
  | arrival :: rest => arrival.data.length + 1 + total rest

namespace Framing

/-- A poll never adds arrivals, and a decided message has used some up. -/
theorem total_pollRead_le {received : Bytes} {reads : List Arrival}
    (room : received.length < Message.wireLength) :
    match pollRead received reads with
    | (.ready (.ok _), rest) => Arrival.total rest < Arrival.total reads
    | (.ready (.error _), _) => True
    | (.pending received', rest) =>
      Arrival.total rest < Arrival.total reads ∧ received'.length < Message.wireLength := by
  fun_induction pollRead received reads with
  | case1 => trivial
  | case2 => trivial
  | case3 received data rest space nonempty short ih =>
    have shorter := ih (by simp only [List.length_append]; omega)
    revert shorter
    split <;> simp_all [Arrival.total, Arrival.data] <;> omega
  | case4 received data rest space nonempty long =>
    split
    · rename_i heq
      simp only [Prod.mk.injEq] at heq
      obtain ⟨-, rfl⟩ := heq
      unfold afterTaking
      split
      · simp [Arrival.total]
      · simp only [Arrival.total, Arrival.data, List.length_drop]
        omega
    · trivial
    · simp_all
  | case5 received error rest interrupted ih =>
    have shorter := ih room
    revert shorter
    split <;> simp_all [Arrival.total, Arrival.data] <;> omega
  | case6 => trivial
  | case7 received rest => simp [Arrival.total, room]

/-- A message that was received has used arrivals up. -/
theorem total_awaitRead_lt {received : Bytes} {reads rest : List Arrival} {message : Message}
    (room : received.length < Message.wireLength)
    (arrived : awaitRead received reads = (.ok message, rest)) :
    Arrival.total rest < Arrival.total reads := by
  fun_induction awaitRead received reads with
  | case1 received reads result rest' polled =>
    have bound := @total_pollRead_le received reads room
    simp_all
  | case2 received reads received' rest' polled ih =>
    have bound := @total_pollRead_le received reads room
    simp only [polled] at bound
    exact Nat.lt_trans (ih bound.2 arrived) bound.1

end Framing

namespace Session

/-- A number that every step of a session makes smaller until it is finished. -/
def rank (session : Session) : Nat :=
  let total := Arrival.total session.transport.reads
  match session.phase with
  | .receiving => 3 * total + 1
  | .submitting _ => 3 * total + 3
  | .responding _ => 3 * total + 2
  | .finished _ => 0

@[simp]
theorem rank_finish (session : Session) (result : Except SessionError Nat) :
    (session.finish result).rank = 0 := rfl

theorem rank_receive_lt (session : Session) (receiving : session.phase = .receiving) :
    session.receive.rank < session.rank := by
  have positive : 0 < session.rank := by simp [rank, receiving]
  unfold receive Transport.receivePolled afterReceiving
  rcases arrived : Framing.awaitRead [] session.transport.reads with ⟨result, rest⟩
  cases result with
  | error error =>
    simp only
    split <;> simpa using positive
  | ok message =>
    have used := Framing.total_awaitRead_lt (by decide) arrived
    simp only
    cases message.expect .guess with
    | error error => simpa using positive
    | ok guess =>
      simp only [rank, receiving]
      omega

theorem rank_submit_lt (session : Session) (game : Game) {guess : Int32}
    (submitting : session.phase = .submitting guess) :
    (session.submit game guess).1.rank < session.rank := by
  unfold submit
  cases game.submit guess <;> simp [rank, finish, submitting]

theorem rank_respond_lt (session : Session) {outcome : Outcome}
    (responding : session.phase = .responding outcome) :
    (session.respond outcome).rank < session.rank := by
  have reads_sendPolled :
      ∀ (transport : Transport) (message : Message),
        (transport.sendPolled message).2.reads = transport.reads := by
    intro transport message
    unfold Transport.sendPolled
    simp only
    split <;> rfl
  unfold respond afterSending
  simp only
  cases (session.transport.sendPolled ⟨.response, outcome.wireValue⟩).1 with
  | error error => simp [rank, finish, responding]
  | ok value =>
    cases session.mode <;> simp [rank, responding, reads_sendPolled]

theorem rank_step_lt (session : Session) (game : Game)
    (unfinished : session.result? = none) :
    (session.step game).1.rank < session.rank := by
  unfold step
  split
  · exact session.rank_receive_lt (by assumption)
  · exact session.rank_submit_lt game (by assumption)
  · exact session.rank_respond_lt (by assumption)
  · rename_i finished
    simp [result?, finished] at unfinished

/-- Takes the steps of a session until it is finished. -/
def run (session : Session) (game : Game) : Except SessionError Nat × Session × Game :=
  match _ : session.result? with
  | some result => (result, session, game)
  | none => (session.step game).1.run (session.step game).2
termination_by session.rank
decreasing_by exact session.rank_step_lt game (by assumption)

end Session

end VirtualNet
