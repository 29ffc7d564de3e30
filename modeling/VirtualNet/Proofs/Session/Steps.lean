import VirtualNet.Session
import VirtualNet.Proofs.Framing.Reporting

/-!
# The steps of a session

What each step of a session does to the session, to its transport and to the game, one lemma for
each. A property that every step preserves holds when the session is finished.
-/

namespace VirtualNet

namespace Session

open Framing

/-- The octets of guesses, in order. -/
def requests (guesses : List Int32) : Bytes :=
  guesses.flatMap fun guess => Message.encode ⟨.guess, guess⟩

/-- The octets of the responses that tell outcomes, in order. -/
def responses (outcomes : List Outcome) : Bytes :=
  outcomes.flatMap fun outcome => Message.encode ⟨.response, outcome.wireValue⟩

/-- The responses that tell outcomes, in order. -/
def responseMessages (outcomes : List Outcome) : List Message :=
  outcomes.map fun outcome => ⟨.response, outcome.wireValue⟩

/-- The guesses that a session has submitted, in order. -/
def guesses (session : Session) : List Int32 := session.submissions.map Submission.guess

/-- The outcomes of the guesses that a session has submitted, in order. -/
def outcomes (session : Session) : List Outcome := session.submissions.map Submission.outcome

theorem flatMap_responseMessages (outcomes : List Outcome) :
    (responseMessages outcomes).flatMap Message.encode = responses outcomes :=
  List.flatMap_map _ _ outcomes

/-- Why a session gives up a guess of which the given octets were received. -/
inductive Refusal (part : Bytes) : FramingError → Prop where
  | unreceived {error : FramingError} (received : Reception part (.error error)) :
      Refusal part error
  | unexpected {message : Message} (received : Reception part (.ok message))
      (other : message.kind ≠ .guess) : Refusal part (.unexpectedKind .guess message.kind)

/-- What a session does next when it has answered so many guesses. -/
def phaseAfterAnswer (mode : SessionMode) (answered : Nat) : SessionPhase :=
  match mode with
  | .singleGuess => .finished (.ok answered)
  | .persistent => .receiving

theorem step_of_receiving {session : Session} (game : Game) (phase : session.phase = .receiving) :
    session.step game = (session.receive, game) := by
  rw [step, phase]

theorem step_of_submitting {session : Session} {guess : Int32} (game : Game)
    (phase : session.phase = .submitting guess) :
    session.step game = session.submit game guess := by
  rw [step, phase]

theorem step_of_responding {session : Session} {outcome : Outcome} (game : Game)
    (phase : session.phase = .responding outcome) :
    session.step game = (session.respond outcome, game) := by
  rw [step, phase]

theorem step_of_finished {session : Session} {result : Except SessionError Nat} (game : Game)
    (phase : session.phase = .finished result) : session.step game = (session, game) := by
  rw [step, phase]

/-- A guess that the game decides is recorded with its outcome. -/
theorem submit_of_ok {session : Session} {game next : Game} {guess : Int32} {outcome : Outcome}
    (decided : game.submit guess = .ok (outcome, next)) :
    session.submit game guess =
      ({ session with
          phase := .responding outcome
          submissions := session.submissions ++ [⟨guess, outcome, game.totalGuesses + 1⟩] },
        next) := by
  simp only [submit, decided]

theorem run_of_unfinished {session : Session} (game : Game)
    (unfinished : session.result? = none) :
    session.run game = (session.step game).1.run (session.step game).2 := by
  rw [run]
  split
  · rename_i finished
    rw [unfinished] at finished
    cases finished
  · rfl

theorem run_of_finished {session : Session} {result : Except SessionError Nat} (game : Game)
    (finished : session.result? = some result) : session.run game = (result, session, game) := by
  rw [run]
  split
  · rename_i result' finished'
    rw [finished] at finished'
    cases finished'
    rfl
  · rename_i unfinished
    rw [finished] at unfinished
    cases unfinished

/-- Running a session that is over changes nothing. -/
theorem run_of_over {session : Session} {result : Except SessionError Nat} (game : Game)
    (finished : session.phase = .finished result) :
    session.run game = (result, session, game) :=
  run_of_finished game (by rw [result?, finished])

end Session

end VirtualNet
