import VirtualNet.Proofs.Game.History
import VirtualNet.Proofs.Session.Steps

/-!
# The account of a session

Whatever a transport does, the guesses that a session submits are the guesses it received, and it
writes the responses to all of them but the last before it writes any of the last one. `Accounted`
says so of a session between two of its steps, phase by phase; every step keeps it, and so it holds
of a session that is finished.
-/

namespace VirtualNet

namespace Session

open Framing

/--
What has passed through a transport since it was `origin`: the octets that were taken from it, and
the responses that were written to it and flushed.
-/
structure Balance (origin now : Transport) (taken : Bytes) (outcomes : List Outcome) : Prop where
  consumed : origin.unread = taken ++ now.unread
  sent : origin.SentAll .polled (responseMessages outcomes) now

theorem Balance.written {origin now : Transport} {taken : Bytes} {outcomes : List Outcome}
    (balance : Balance origin now taken outcomes) :
    now.written = origin.written ++ responses outcomes := by
  rw [balance.sent.written, flatMap_responseMessages]

/--
What has passed through a transport on which the response to the last guess could not be sent: the
responses before it were written and flushed, and it was tried for.
-/
structure Unanswered (origin now : Transport) (taken : Bytes) (earlier : List Outcome)
    (last : Outcome) (error : FramingError) : Prop where
  consumed : origin.unread = taken ++ now.unread
  sending : ∃ before, origin.SentAll .polled (responseMessages earlier) before ∧
    Transport.Sends .polled ⟨.response, last.wireValue⟩ before (.error error) now

theorem Unanswered.written {origin now : Transport} {taken : Bytes} {earlier : List Outcome}
    {last : Outcome} {error : FramingError}
    (unanswered : Unanswered origin now taken earlier last error) :
    ∃ sent, now.written = origin.written ++ responses earlier ++ sent ∧
      sent <+: responses [last] := by
  rcases unanswered.sending with ⟨before, sentBefore, sends⟩
  rcases sends.written with ⟨sent, written, first⟩
  refine ⟨sent, ?_, ?_⟩
  · rw [written, sentBefore.written, flatMap_responseMessages]
  · simpa [responses] using first

/-- A session that has answered every guess so far, having taken these octets. -/
structure Settled (origin : Transport) (session : Session) (taken : Bytes) : Prop where
  balance : Balance origin session.transport taken session.outcomes
  answered : session.answered = session.outcomes.length
  single : session.mode = .singleGuess → session.outcomes = []

/-- The account of a session, by its phase. -/
def Accounted (origin : Transport) (session : Session) : Prop :=
  match session.phase with
  | .receiving => Settled origin session (requests session.guesses)
  | .submitting guess => Settled origin session (requests (session.guesses ++ [guess]))
  | .responding outcome =>
    ∃ earlier, session.outcomes = earlier ++ [outcome] ∧
      Balance origin session.transport (requests session.guesses) earlier ∧
      session.answered = earlier.length ∧ (session.mode = .singleGuess → earlier = [])
  | .finished (.ok count) =>
    Balance origin session.transport (requests session.guesses) session.outcomes ∧
      count = session.outcomes.length ∧ 0 < count ∧ (session.mode = .singleGuess → count = 1)
  | .finished (.error (.framing error)) =>
    (∃ part, Balance origin session.transport (requests session.guesses ++ part)
        session.outcomes ∧ Refusal part error) ∨
      ∃ earlier last, session.outcomes = earlier ++ [last] ∧
        Unanswered origin session.transport (requests session.guesses) earlier last error
  | .finished (.error (.overflow _)) =>
    ∃ guess, Settled origin session (requests (session.guesses ++ [guess]))

end Session

end VirtualNet
