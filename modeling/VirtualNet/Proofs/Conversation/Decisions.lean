import VirtualNet.Proofs.Framing.Pieces
import VirtualNet.Proofs.Session.Stream

/-!
# What a client hears of its guesses

Over streams that hand every octet over, in whatever pieces, a client hears of each guess what the
game decided. One exchange takes a session that waits for a guess to one that has answered it; as
long as that session waits again, the next exchange begins as the first one did. A session that is
over answers nothing, so every guess after that fails and reaches no game.
-/

namespace VirtualNet

open Framing

/-- An exchange in which every write makes progress or is tried again. -/
structure Exchange.Reliable (exchange : Exchange) : Prop where
  requests : ∀ event ∈ exchange.requestWrites, event.Willing
  responses : ∀ event ∈ exchange.responseWrites, event.Willing

namespace Client

/-- Asking over a stream that takes what is written to it writes the guess. -/
theorem ask_of_willing {writes : List Acceptance} (willing : ∀ event ∈ writes, event.Willing)
    (number : Int32) :
    ∃ after, ask ⟨[], writes, [], []⟩ number = (.ok (), after) ∧
      after.written = Message.encode ⟨.guess, number⟩ := by
  have carries : (Transport.mk [] writes [] []).Carries [] := ⟨.nothing, willing, nofun⟩
  rcases Transport.sendPolled_of_carries carries ⟨.guess, number⟩ with ⟨after, sent, written, -⟩
  exact ⟨after, sent, written⟩

/-- The response that tells an outcome is heard as that outcome. -/
theorem hear_of_response (pieces : List Piece) (outcome : Outcome) :
    (hear (.ofReads (Piece.deliver pieces
      (Message.encode ⟨.response, outcome.wireValue⟩)))).1 = .ok outcome := by
  have delivers := (brings_deliver pieces (Message.encode ⟨.response, outcome.wireValue⟩)).delivers
  have carries : (Transport.ofReads (Piece.deliver pieces
      (Message.encode ⟨.response, outcome.wireValue⟩))).Carries
        (Message.encode ⟨.response, outcome.wireValue⟩) := ⟨delivers, nofun, nofun⟩
  rcases Transport.receivePolled_of_carries carries with ⟨after, received, -, -⟩
  have whole := Message.decode_encode_append ⟨.response, outcome.wireValue⟩ []
  rw [List.append_nil] at whole
  rw [hear, received, whole]
  simp [Message.expect, bind, Except.bind, pure, Except.pure]

/-- Where no response comes, hearing fails. -/
theorem hear_of_nothing (pieces : List Piece) :
    (hear (.ofReads (Piece.deliver pieces []))).1 = .error (.connectionClosed 0) := by
  have carries : (Transport.ofReads (Piece.deliver pieces [])).Carries [] :=
    ⟨(brings_deliver pieces []).delivers, nofun, nofun⟩
  rcases Transport.receivePolled_of_carries carries with ⟨after, received, -, -⟩
  rw [hear, received]
  rfl

end Client

namespace Session

/-- A session that receives a guess keeps what its reads bring after it. -/
theorem receive_of_brings {session : Session} {guess : Int32} {octets : Bytes}
    (brings : Brings (Message.encode ⟨.guess, guess⟩ ++ octets) session.transport.reads) :
    ∃ left, Brings octets left ∧
      session.receive =
        { session with
          transport := { session.transport with reads := left }
          phase := .submitting guess } := by
  rcases read_of_brings brings with ⟨left, arrived, bringsLeft⟩
  refine ⟨left, bringsLeft, ?_⟩
  rw [receive, Transport.receivePolled, awaitRead_eq_read, arrived]
  rfl

/-- A session that is let to send its response sends it whole and leaves its reads alone. -/
theorem respond_of_carries {session : Session} {stream : Bytes}
    (carries : session.transport.Carries stream) (outcome : Outcome) :
    ∃ transport, transport.Carries stream ∧ transport.reads = session.transport.reads ∧
      transport.written = session.transport.written ++ responses [outcome] ∧
      session.respond outcome =
        { session with
          transport
          answered := session.answered + 1
          phase := phaseAfterAnswer session.mode (session.answered + 1) } := by
  rcases Transport.sendPolled_of_carries carries ⟨.response, outcome.wireValue⟩ with
    ⟨transport, sent, written, carriesAfter⟩
  have reads := session.transport.reads_sendBy .polled ⟨.response, outcome.wireValue⟩
  rw [Transport.sendBy, sent] at reads
  refine ⟨transport, carriesAfter, reads, ?_, ?_⟩
  · simpa [responses] using written
  · rw [respond, sent]
    rfl

/-- A session that waits for a guess over reliable streams, with nothing of one on its way. -/
structure Attends (session : Session) : Prop where
  receiving : session.phase = .receiving
  quiet : Brings [] session.transport.reads
  carries : session.transport.Carries []

/-- The session of an exchange, with what its client sent on the way to it. -/
def served (session : Session) (exchange : Exchange) (request : Bytes) : Session :=
  { session with
    transport := { session.transport with
      reads := session.transport.reads ++ Piece.deliver exchange.requestPieces request
      writes := exchange.responseWrites } }

theorem attends_start (mode : SessionMode) : (start mode (.ofReads [])).Attends :=
  ⟨rfl, brings_nil, .nothing, nofun, nofun⟩

end Session

namespace Conversation

variable {conversation : Conversation} {exchange : Exchange} {number : Int32} {next : Game}
  {outcome : Outcome}

theorem steps_succ {session session' : Session} {game game' : Game}
    (stepped : session.step game = (session', game')) (count : Nat) :
    steps ⟨session, game⟩ (count + 1) = steps ⟨session', game'⟩ count := by
  rw [steps]
  simp only
  rw [stepped]

theorem guesses_cons {between after : Conversation} {turns : List (Exchange × Int32)}
    {first : Except FramingError Outcome} {others : List (Except FramingError Outcome)}
    (heard : conversation.guess exchange number = (first, between))
    (heardRest : between.guesses turns = (others, after)) :
    conversation.guesses ((exchange, number) :: turns) = (first :: others, after) := by
  rw [guesses, heard]
  simp only
  rw [heardRest]

/-- Three steps take a session that a guess is brought to through that guess. -/
theorem steps_of_guess {session : Session} {game : Game} (receiving : session.phase = .receiving)
    (brings : Brings (Message.encode ⟨.guess, number⟩) session.transport.reads)
    (accepts : ∀ event ∈ session.transport.writes, event.Willing)
    (flushes : ∀ event ∈ session.transport.flushes, event.Willing)
    (decided : game.submit number = .ok (outcome, next)) :
    ∃ after, steps ⟨session, game⟩ 3 = ⟨after, next⟩ ∧
      session.Answering number outcome [] after ∧ Brings [] after.transport.reads := by
  rw [← List.append_nil (Message.encode _)] at brings
  rcases Session.receive_of_brings brings with ⟨left, quiet, received⟩
  let submitted : Session :=
    { session with
      transport := { session.transport with reads := left }
      phase := .responding outcome
      submissions := session.submissions ++ [⟨number, outcome, game.totalGuesses + 1⟩] }
  have carries : submitted.transport.Carries [] := ⟨quiet.delivers, accepts, flushes⟩
  rcases Session.respond_of_carries carries outcome with
    ⟨transport, carriesAfter, reads, written, responded⟩
  refine ⟨submitted.respond outcome, ?_, ?_⟩
  · have taken : session.step game =
        ({ session with
            transport := { session.transport with reads := left }
            phase := .submitting number }, game) := by
      rw [Session.step_of_receiving game receiving, received]
    rw [steps_succ taken, steps_succ ((Session.step_of_submitting game rfl).trans
      (Session.submit_of_ok decided)), steps_succ (Session.step_of_responding next rfl)]
    rfl
  · rw [responded, reads]
    exact ⟨⟨rfl, rfl, rfl, List.map_append, List.map_append, written, carriesAfter⟩, quiet⟩

/-- A guess is what the client hears of what the session has written after three steps. -/
theorem guess_eq {asking : Except FramingError Unit} {client : Transport} {after : Conversation}
    (asked : Client.ask ⟨[], exchange.requestWrites, [], []⟩ number = (asking, client))
    (stepped : steps ⟨conversation.session.served exchange client.written, conversation.game⟩ 3 =
      after) :
    conversation.guess exchange number =
      (asking.bind fun _ => (Client.hear (.ofReads (Piece.deliver exchange.responsePieces
        (after.session.transport.written.drop
          conversation.session.transport.written.length)))).1, after) := by
  rw [Session.served] at stepped
  rw [guess, asked]
  simp only
  rw [stepped]
  cases asking with
  | error error => rfl
  | ok _ => rfl

/-- An exchange with a session that waits for a guess. -/
theorem guess_of_attending (attends : conversation.session.Attends) (reliable : exchange.Reliable)
    (decided : conversation.game.submit number = .ok (outcome, next)) :
    ∃ after, conversation.guess exchange number = (.ok outcome, ⟨after, next⟩) ∧
      conversation.session.Answering number outcome [] after ∧
      Brings [] after.transport.reads := by
  rcases Client.ask_of_willing reliable.requests number with ⟨client, asked, requested⟩
  let served : Session := conversation.session.served exchange client.written
  have brings : Brings (Message.encode ⟨.guess, number⟩) served.transport.reads := by
    rw [← requested]
    exact attends.quiet.append (brings_deliver exchange.requestPieces client.written)
  have receiving : served.phase = .receiving := attends.receiving
  rcases steps_of_guess receiving brings reliable.responses attends.carries.flushes decided with
    ⟨after, stepped, answering, quiet⟩
  refine ⟨after, ?_, ⟨answering.mode, answering.phase, answering.answered, answering.guesses,
    answering.outcomes, answering.written, answering.carries⟩, quiet⟩
  have response : after.transport.written.drop conversation.session.transport.written.length =
      Message.encode ⟨.response, outcome.wireValue⟩ := by
    rw [answering.written]
    simp [Session.responses, served, Session.served]
  rw [guess_eq asked stepped, response]
  exact congrArg (·, Conversation.mk after next)
    (Client.hear_of_response exchange.responsePieces outcome)

/-- A persistent session answers one exchange after another. -/
theorem guesses_of_attending {turns : List (Exchange × Int32)} {outcomes : List Outcome}
    {final : Game} (attends : conversation.session.Attends)
    (persistent : conversation.session.mode = .persistent)
    (reliable : ∀ turn ∈ turns, turn.1.Reliable)
    (played : conversation.game.submitAll (turns.map Prod.snd) = .ok (outcomes, final)) :
    ∃ after, conversation.guesses turns = (outcomes.map .ok, ⟨after, final⟩) ∧ after.Attends ∧
      after.mode = .persistent ∧
      after.answered = conversation.session.answered + turns.length ∧
      after.guesses = conversation.session.guesses ++ turns.map Prod.snd ∧
      after.outcomes = conversation.session.outcomes ++ outcomes := by
  induction turns generalizing conversation outcomes with
  | nil =>
      cases played
      exact ⟨conversation.session, rfl, attends, persistent, rfl, (List.append_nil _).symm,
        (List.append_nil _).symm⟩
  | cons turn rest ih =>
      rcases turn with ⟨exchange, number⟩
      rcases List.forall_mem_cons.mp reliable with ⟨reliableFirst, reliableRest⟩
      rcases Game.submitAll_cons_eq_ok played with ⟨outcome, next, later, decided, continued, rfl⟩
      rcases guess_of_attending attends reliableFirst decided with
        ⟨between, heard, answering, quiet⟩
      have receiving : between.phase = .receiving := by
        rw [answering.phase, persistent, Session.phaseAfterAnswer]
      have mode : between.mode = .persistent := answering.mode.trans persistent
      have attendsNext : (Conversation.mk between next).session.Attends :=
        ⟨receiving, quiet, answering.carries⟩
      rcases ih attendsNext mode reliableRest continued with
        ⟨after, heardRest, attendsAfter, modeAfter, answered, guessed, outcomes⟩
      refine ⟨after, ?_, attendsAfter, modeAfter, ?_, ?_, ?_⟩
      · exact guesses_cons heard heardRest
      · rw [answered, answering.answered, List.length_cons]
        omega
      · rw [guessed, answering.guesses, List.append_assoc, List.map_cons, List.singleton_append]
      · rw [outcomes, answering.outcomes, List.append_assoc, List.singleton_append]

/-- A client that leaves a persistent session between two guesses ends it in the ordinary way. -/
theorem leave_of_attending (attends : conversation.session.Attends)
    (persistent : conversation.session.mode = .persistent)
    (answered : 0 < conversation.session.answered) :
    ∃ ended, conversation.leave =
        (.ok conversation.session.answered, ended, conversation.game) ∧
      ended.guesses = conversation.session.guesses ∧
      ended.outcomes = conversation.session.outcomes := by
  have noGuess : Session.NoGuess [] := Or.inl (by decide)
  have single : conversation.session.mode = .singleGuess →
      conversation.session.answered = 0 := by
    intro single
    rw [persistent] at single
    cases single
  rcases Session.run_of_noGuess conversation.game attends.receiving attends.carries noGuess
    single with ⟨ended, ran, guessed, outcomes, -⟩
  refine ⟨ended, ?_, guessed, outcomes⟩
  rw [leave, ran, Session.ending, if_pos ⟨rfl, answered⟩]

/-- A session that is over takes no steps. -/
theorem steps_of_finished {session : Session} {game : Game} {result : Except SessionError Nat}
    (finished : session.phase = .finished result) (count : Nat) :
    steps ⟨session, game⟩ count = ⟨session, game⟩ := by
  induction count with
  | zero => rfl
  | succ count ih =>
      rw [steps_succ (Session.step_of_finished game finished)]
      exact ih

/-- A session that is over, and the game it left. -/
structure Over (session : Session) (game : Game) (conversation : Conversation) : Prop where
  phase : conversation.session.phase = session.phase
  submissions : conversation.session.submissions = session.submissions
  game : conversation.game = game

/-- A guess that comes after the session is over fails, in whatever pieces its octets come. -/
theorem guess_of_finished {result : Except SessionError Nat}
    (finished : conversation.session.phase = .finished result) (exchange : Exchange)
    (number : Int32) :
    ∃ error after, conversation.guess exchange number = (.error error, after) ∧
      Over conversation.session conversation.game after := by
  rcases asked : Client.ask ⟨[], exchange.requestWrites, [], []⟩ number with ⟨asking, client⟩
  let served : Session := conversation.session.served exchange client.written
  have ended : served.phase = .finished result := finished
  have stood : steps ⟨served, conversation.game⟩ 3 = ⟨served, conversation.game⟩ :=
    steps_of_finished ended 3
  rw [guess_eq asked stood]
  cases asking with
  | error error => exact ⟨error, ⟨served, conversation.game⟩, rfl, rfl, rfl, rfl⟩
  | ok _ =>
      refine ⟨.connectionClosed 0, ⟨served, conversation.game⟩, ?_, rfl, rfl, rfl⟩
      have nothing := Client.hear_of_nothing exchange.responsePieces
      simp only [Except.bind, served, Session.served, List.drop_length, nothing]

/-- Every guess that comes after the session is over fails, and none is submitted. -/
theorem guesses_of_finished {result : Except SessionError Nat}
    (finished : conversation.session.phase = .finished result)
    (turns : List (Exchange × Int32)) :
    ∃ refusals after, conversation.guesses turns = (refusals, after) ∧
      refusals.length = turns.length ∧ (∀ refusal ∈ refusals, ∃ error, refusal = .error error) ∧
      Over conversation.session conversation.game after := by
  induction turns generalizing conversation with
  | nil => exact ⟨[], conversation, rfl, rfl, nofun, rfl, rfl, rfl⟩
  | cons turn rest ih =>
      rcases turn with ⟨exchange, number⟩
      rcases guess_of_finished finished exchange number with ⟨error, between, refused, stands⟩
      rcases ih (stands.phase.trans finished) with ⟨refusals, after, refusedRest, length, all, kept⟩
      refine ⟨.error error :: refusals, after, guesses_cons refused refusedRest, ?_, ?_, ?_⟩
      · rw [List.length_cons, List.length_cons, length]
      · exact List.forall_mem_cons.mpr ⟨⟨error, rfl⟩, all⟩
      · exact ⟨kept.phase.trans stands.phase, kept.submissions.trans stands.submissions,
          kept.game.trans stands.game⟩

/-- The client hears exactly what the game decided. A persistent session answers every guess until
the client leaves; any other session answers the first, and the rest reach no game. -/
theorem hears_what_was_decided (game : Game) :
    (∀ turns : List (Exchange × Int32), (∀ turn ∈ turns, turn.1.Reliable) →
      game.HasRoom turns.length →
      ∃ outcomes final conversation,
        game.submitAll (turns.map Prod.snd) = .ok (outcomes, final) ∧
        (start .persistent game).guesses turns = (outcomes.map .ok, conversation) ∧
        conversation.session.guesses = turns.map Prod.snd ∧
        conversation.session.outcomes = outcomes ∧ conversation.game = final ∧
        (turns ≠ [] → ∃ ended, conversation.leave = (.ok turns.length, ended, final) ∧
          ended.guesses = turns.map Prod.snd ∧ ended.outcomes = outcomes)) ∧
    (∀ (exchange : Exchange) (number : Int32) (later : List (Exchange × Int32)),
      exchange.Reliable → game.HasRoom 1 →
      ∃ outcome next refusals conversation,
        game.submit number = .ok (outcome, next) ∧
        (start .singleGuess game).guesses ((exchange, number) :: later) =
          (.ok outcome :: refusals, conversation) ∧
        refusals.length = later.length ∧ (∀ refusal ∈ refusals, ∃ error, refusal = .error error) ∧
        conversation.session.guesses = [number] ∧
        conversation.session.outcomes = [outcome] ∧ conversation.game = next ∧
        conversation.leave = (.ok 1, conversation.session, next)) := by
  constructor
  · intro turns reliable room
    have roomAll : game.HasRoom (turns.map Prod.snd).length := by
      rw [List.length_map]
      exact room
    rcases Game.submitAll_of_room roomAll with ⟨outcomes, final, played⟩
    have attends : (start .persistent game).session.Attends := Session.attends_start .persistent
    rcases guesses_of_attending attends rfl reliable played with
      ⟨after, heard, attendsAfter, mode, answered, guessed, decided⟩
    have answered : after.answered = turns.length := answered.trans (Nat.zero_add _)
    refine ⟨outcomes, final, ⟨after, final⟩, played, heard, guessed, decided, rfl, ?_⟩
    intro some
    have positive : 0 < (Conversation.mk after final).session.answered :=
      answered ▸ List.length_pos_iff.mpr some
    rcases leave_of_attending attendsAfter mode positive with ⟨ended, left, kept, keptOutcomes⟩
    refine ⟨ended, ?_, kept.trans guessed, keptOutcomes.trans decided⟩
    rw [left, answered]
  · intro exchange number later reliable room
    rcases Game.submit_of_room room number with ⟨next, submitted, -⟩
    have attends : (start .singleGuess game).session.Attends := Session.attends_start .singleGuess
    rcases guess_of_attending attends reliable submitted with
      ⟨after, heard, answering, -⟩
    have finished : (Conversation.mk after next).session.phase = .finished (.ok 1) :=
      answering.phase
    rcases guesses_of_finished finished later with
      ⟨refusals, conversation, refused, length, all, stands⟩
    have result : conversation.session.result? = some (.ok 1) := by
      rw [Session.result?, stands.phase, finished]
    refine ⟨_, next, refusals, conversation, submitted, guesses_cons heard refused, length, all, ?_,
      ?_, stands.game, ?_⟩
    · rw [Session.guesses, stands.submissions]
      exact answering.guesses
    · rw [Session.outcomes, stands.submissions]
      exact answering.outcomes
    · rw [leave, Session.run_of_finished _ result, stands.game]

/-- A round that is won on the second guess, over streams that pass messages on piece by piece. -/
theorem hears_a_hit_across_rounds :
    let game : Game := ⟨.default, 7, 0, 0, []⟩
    let exchange : Exchange :=
      ⟨[.upTo 2, .notReady], [.octets 0, .pause, .octets 2], [.notReady, .upTo 4],
        [.interruption "Interrupted", .octets 3]⟩
    exchange.Reliable ∧ game.HasRoom 3 ∧ game.HasRoom 1 ∧
      (∃ conversation ended final,
        (start .persistent game).guesses [(exchange, 5), (exchange, 7), (exchange, 7)] =
            ([.ok .higher, .ok .hit, .ok .lower], conversation) ∧
          conversation.leave = (.ok 3, ended, final) ∧ final.snapshot = ⟨0, 1, 1⟩) ∧
      ∃ error conversation,
        (start .singleGuess game).guesses [(exchange, 5), (exchange, 7)] =
            ([.ok .higher, .error error], conversation) ∧
          conversation.session.guesses = [5] ∧ conversation.game.snapshot = ⟨7, 1, 0⟩ := by
  intro game exchange
  have reliable : exchange.Reliable :=
    ⟨by simp [exchange, Acceptance.Willing], by simp [exchange, Acceptance.Willing]⟩
  have roomAll : game.HasRoom 3 := ⟨by decide, by decide⟩
  have roomFirst : game.HasRoom 1 := roomAll.mono (by decide)
  have decisions : game.submitAll [5, 7, 7] =
      .ok ([.higher, .hit, .lower], ⟨.default, 0, 1, 1, []⟩) := rfl
  have decision : game.submit 5 = .ok (.higher, ⟨.default, 7, 1, 0, []⟩) := rfl
  refine ⟨reliable, roomAll, roomFirst, ?_, ?_⟩
  · rcases (hears_what_was_decided game).1 [(exchange, 5), (exchange, 7), (exchange, 7)]
        (by simp [reliable]) roomAll with
      ⟨outcomes, final, conversation, played, heard, -, -, -, leaves⟩
    cases decisions.symm.trans played
    rcases leaves nofun with ⟨ended, left, -⟩
    exact ⟨conversation, ended, _, heard, left, rfl⟩
  · rcases (hears_what_was_decided game).2 exchange 5 [(exchange, 7)] reliable roomFirst with
      ⟨outcome, next, refusals, conversation, submitted, heard, length, all, guessed, -, left, -⟩
    cases decision.symm.trans submitted
    rcases List.length_eq_one_iff.mp length with ⟨refusal, rfl⟩
    rcases all refusal (List.mem_singleton_self refusal) with ⟨error, rfl⟩
    exact ⟨error, conversation, heard, guessed, left ▸ rfl⟩

end Conversation

end VirtualNet
