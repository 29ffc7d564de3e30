import VirtualNet.Proofs.Framing.Stream
import VirtualNet.Proofs.Game.History
import VirtualNet.Proofs.Session.Steps

/-!
# What a session makes of a stream

Over a transport that carries a stream a session depends on the octets of the stream alone, however
they arrive: it answers the guesses that the stream begins with and ends at the octets after them.
-/

namespace VirtualNet

namespace Session

open Framing

/-- Octets that do not begin with a whole guess. -/
def NoGuess (left : Bytes) : Prop := left.length < 5 ∨ left.head? ≠ some 0

/-- How a session that has answered so many guesses ends at octets that begin with no guess. -/
def ending (answered : Nat) (left : Bytes) : Except SessionError Nat :=
  if left = [] ∧ 0 < answered then .ok answered
  else if left.length < 5 then .error (.framing (.connectionClosed left.length))
  else if left.head? = some 1 then .error (.framing (.unexpectedKind .guess .response))
  else .error (.framing (.unknownKind (left.headD 0)))

theorem exists_of_not_short {bytes : Bytes} (long : ¬bytes.length < 5) :
    ∃ tag first second third fourth rest,
      bytes = tag :: first :: second :: third :: fourth :: rest := by
  match bytes with
  | [] | [_] | [_, _] | [_, _, _] | [_, _, _, _] => simp at long
  | tag :: first :: second :: third :: fourth :: rest => exact ⟨_, _, _, _, _, _, rfl⟩

/-- A session that finds no guess on the stream ends. -/
theorem receive_of_noGuess {session : Session} {left : Bytes}
    (carries : session.transport.Carries left) (noGuess : NoGuess left)
    (single : session.mode = .singleGuess → session.answered = 0) :
    ∃ transport,
      session.receive =
        { session with transport, phase := .finished (ending session.answered left) } ∧
      transport.written = session.transport.written := by
  rcases Transport.receivePolled_of_carries carries with ⟨after, received, written, -⟩
  refine ⟨after, ?_, written⟩
  by_cases short : left.length < 5
  · have leaves : (FramingError.connectionClosed left.length = .connectionClosed 0 ∧
        session.mode = .persistent ∧ 0 < session.answered) ↔
          left = [] ∧ 0 < session.answered := by
      constructor
      · rintro ⟨empty, -, answered⟩
        exact ⟨List.eq_nil_of_length_eq_zero (FramingError.connectionClosed.inj empty), answered⟩
      · rintro ⟨rfl, answered⟩
        refine ⟨rfl, ?_, answered⟩
        cases mode : session.mode with
        | persistent => rfl
        | singleGuess => exact absurd (single mode) (Nat.ne_of_gt answered)
    rw [receive, received, Message.decode_of_short short]
    by_cases gone : left = [] ∧ 0 < session.answered
    · simp only [afterReceiving, leaves, if_pos gone, ending, finish]
    · simp only [afterReceiving, leaves, if_neg gone, if_pos short, ending, finish]
  · have other := noGuess.resolve_left short
    rcases exists_of_not_short short with ⟨tag, first, second, third, fourth, rest, rfl⟩
    have notGuess : tag ≠ 0 := by simpa using other
    by_cases response : tag = 1
    · subst response
      simp [receive, received, afterReceiving, Message.decode, Message.expect, ending, finish]
    · simp [receive, received, afterReceiving, Message.decode, notGuess, response, ending, finish]

/-- The session that `session` becomes by answering a guess, if the stream goes on like this. -/
structure Answering (session : Session) (guess : Int32) (outcome : Outcome) (stream : Bytes)
    (after : Session) : Prop where
  mode : after.mode = session.mode
  phase : after.phase = phaseAfterAnswer session.mode (session.answered + 1)
  answered : after.answered = session.answered + 1
  guesses : after.guesses = session.guesses ++ [guess]
  outcomes : after.outcomes = session.outcomes ++ [outcome]
  written : after.transport.written = session.transport.written ++ responses [outcome]
  carries : after.transport.Carries stream

/-- A session that finds no guess on the stream is over, with nothing written. -/
theorem run_of_noGuess {session : Session} {left : Bytes} (game : Game)
    (receiving : session.phase = .receiving) (carries : session.transport.Carries left)
    (noGuess : NoGuess left) (single : session.mode = .singleGuess → session.answered = 0) :
    ∃ ended, session.run game = (ending session.answered left, ended, game) ∧
      ended.guesses = session.guesses ∧ ended.outcomes = session.outcomes ∧
      ended.transport.written = session.transport.written := by
  rcases receive_of_noGuess carries noGuess single with ⟨transport, received, written⟩
  let ended : Session :=
    { session with transport, phase := .finished (ending session.answered left) }
  have toReceive : session.result? = none := by rw [result?, receiving]
  have finished : ended.result? = some (ending session.answered left) := rfl
  refine ⟨ended, ?_, rfl, rfl, written⟩
  rw [run_of_unfinished game toReceive, step_of_receiving game receiving, received]
  exact run_of_finished game finished

end Session

end VirtualNet
