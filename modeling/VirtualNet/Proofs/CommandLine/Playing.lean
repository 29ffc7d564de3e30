import Mathlib.Data.List.TakeWhile
import VirtualNet.CommandLine.GuessTool
import VirtualNet.Proofs.Conversation.Decisions
import VirtualNet.Proofs.Game.Rounds
import VirtualNet.Venue

/-!
# A player plays every number once

The player's tool reads lines and makes one guess for each number on them, over a connection of its
own. A visit over reliable streams submits the number to the game and leaves a session behind that
has nothing to do but end (`guessOnce_of_room`), so one line takes the tool to the lines after it
with what it has written and the game as that line has left it. `Transcript` says what is written of
lines that do not end the game, and `play_append` is the run over them, by induction, for whatever
lines come after them.
-/

namespace VirtualNet

open Framing

/-- A session that has nothing to do but end: whenever it goes on, it ends in the ordinary way with
one guess answered, submits nothing more and leaves the game as it finds it. -/
def Session.Spent (session : Session) : Prop :=
  ∀ game, ∃ ended, session.run game = (.ok 1, ended, game) ∧
    ended.guesses = session.guesses ∧ ended.outcomes = session.outcomes

/-- A session is spent when the client whose only guess it has answered leaves. -/
theorem Session.spent_of_answering {mode : SessionMode} {number : Int32} {outcome : Outcome}
    {session : Session}
    (answering : (start mode (.ofReads [])).Answering number outcome [] session)
    (quiet : Brings [] session.transport.reads) : session.Spent := by
  intro game
  cases mode with
  | singleGuess =>
      have finished : session.phase = .finished (.ok 1) := answering.phase
      exact ⟨session, run_of_over game finished, rfl, rfl⟩
  | persistent =>
      -- The session waits for another guess and finds the end of the stream instead.
      have attends : (Conversation.mk session game).session.Attends :=
        ⟨answering.phase, quiet, answering.carries⟩
      have answered : (Conversation.mk session game).session.answered = 1 := answering.answered
      rcases Conversation.leave_of_attending attends answering.mode (by omega) with
        ⟨ended, left, kept⟩
      rw [answered] at left
      exact ⟨ended, left, kept⟩

namespace Venue

/-- A visitor whose connection works hears how the game has decided the guess, and the session that
has submitted the guess is spent. -/
theorem guessOnce_of_room {venue : Venue}
    (reliable : ∀ exchange ∈ venue.exchanges, exchange.Reliable) (room : venue.game.HasRoom 1)
    (number : Int32) :
    ∃ next session,
      venue.game.submit number = .ok (Outcome.compare venue.game.target number, next) ∧
      session.guesses = [number] ∧
      session.outcomes = [Outcome.compare venue.game.target number] ∧ session.Spent ∧
      guessOnce (.ok ()) venue number =
        (.ok (Outcome.compare venue.game.target number),
          { venue with
            game := next
            exchanges := venue.exchanges.tail
            visited := venue.visited ++ [session] }) := by
  rcases Game.submit_of_room room number with ⟨next, submitted, -⟩
  have works : (venue.exchanges.headD .whole).Reliable := by
    cases exchanges : venue.exchanges with
    | nil => exact ⟨nofun, nofun⟩
    | cons exchange rest => exact reliable exchange (exchanges ▸ List.mem_cons_self)
  have attends : (Conversation.start venue.mode venue.game).session.Attends :=
    Session.attends_start venue.mode
  rcases Conversation.guess_of_attending attends works submitted with
    ⟨session, heard, answering, quiet⟩
  refine ⟨next, session, submitted, answering.guesses, answering.outcomes,
    Session.spent_of_answering answering quiet, ?_⟩
  simp only [guessOnce, Client.connect, heard]

end Venue

namespace CommandLine

/-- A report with something written before it. -/
def Report.preceded (report : Report) (emissions : List Emission) : Report :=
  { report with emissions := emissions ++ report.emissions }

theorem Report.preceded_preceded (report : Report) (first later : List Emission) :
    (report.preceded later).preceded first = report.preceded (first ++ later) := by
  simp only [preceded, List.append_assoc]

namespace GuessTool

/-- What the player is told of a number that was compared with a target. -/
inductive Told (target number : Int32) : String → Prop where
  | tooHigh (above : target < number) : Told target number s!"Wrong! {number} is too high"
  | tooLow (below : number < target) : Told target number s!"Wrong! {number} is too low"
  | won (equal : number = target) : Told target number "Yay, you won!!"

theorem told_verdict (target number : Int32) :
    Told target number (verdict number (Outcome.compare target number)) := by
  cases decided : Outcome.compare target number with
  | lower => exact .tooHigh (Outcome.compare_eq_lower_iff.mp decided)
  | higher => exact .tooLow (Outcome.compare_eq_higher_iff.mp decided)
  | hit => exact .won (Outcome.compare_eq_hit_iff.mp decided)

/-- What is written of a line that does not end the game, and the game after it. -/
inductive Answers (game : Game) (line : String) : List Emission → Game → Prop where
  | number {number : Int32} {text : String} {outcome : Outcome} {next : Game}
      (read : Text.int32? (Text.trim line) = some number)
      (told : Told game.target number text)
      (submitted : game.submit number = .ok (outcome, next)) :
      Answers game line
        [.output "Enter a guess: ", .log ⟨.info, s!"Sending guess: {number}"⟩, .line text] next
  | other (unread : Text.int32? (Text.trim line) = none) :
      Answers game line
        [.output "Enter a guess: ", .line s!"Not a number: {Text.trim line}"] game

/-- What is written of lines one after another, each answered by the game that it comes upon. -/
inductive Transcript : Game → List String → List Emission → Game → Prop where
  | nil {game : Game} : Transcript game [] [] game
  | cons {game next final : Game} {line : String} {lines : List String}
      {emissions emissions' : List Emission} (first : Answers game line emissions next)
      (rest : Transcript next lines emissions' final) :
      Transcript game (line :: lines) (emissions ++ emissions') final

/-- The lines in front of the first that ends the game. -/
def heard (lines : List String) : List String :=
  lines.takeWhile fun line => Text.trim line ≠ "q"

/-- The numbers on lines, in order. -/
def numbers (lines : List String) : List Int32 :=
  lines.filterMap fun line => Text.int32? (Text.trim line)

/-- What is written where the lines end, or end the game. -/
def farewell (lines : List String) : List Emission :=
  if heard lines = lines then [.output "Enter a guess: "]
  else [.output "Enter a guess: ", .line "Exiting."]

/-- What has become of lines that do not end the game when all of them have been played. -/
structure Played (venue : Venue) (lines : List String) (emissions : List Emission)
    (outcomes : List Outcome) (sessions : List Session) (after : Venue) : Prop where
  transcript : Transcript venue.game lines emissions after.game
  submitted : venue.game.submitAll (numbers lines) = .ok (outcomes, after.game)
  visited : after.visited = venue.visited ++ sessions
  /-- Every number has a session of its own. -/
  guesses : sessions.map Session.guesses = (numbers lines).map fun number => [number]
  decided : sessions.map Session.outcomes = outcomes.map fun outcome => [outcome]
  spent : ∀ session ∈ sessions, session.Spent

theorem Transcript.append {game between final : Game} {lines lines' : List String}
    {emissions emissions' : List Emission} (first : Transcript game lines emissions between)
    (rest : Transcript between lines' emissions' final) :
    Transcript game (lines ++ lines') (emissions ++ emissions') final := by
  induction first with
  | nil => exact rest
  | cons answers _ ih =>
      rw [List.append_assoc]
      exact .cons answers (ih rest)

theorem Transcript.single {game next : Game} {line : String} {emissions : List Emission}
    (answers : Answers game line emissions next) : Transcript game [line] emissions next := by
  simpa using Transcript.cons answers .nil

theorem Played.nil (venue : Venue) : Played venue [] [] [] [] venue :=
  ⟨.nil, rfl, (List.append_nil _).symm, rfl, rfl, nofun⟩

theorem Played.append {venue between after : Venue} {lines lines' : List String}
    {emissions emissions' : List Emission} {outcomes outcomes' : List Outcome}
    {sessions sessions' : List Session}
    (first : Played venue lines emissions outcomes sessions between)
    (rest : Played between lines' emissions' outcomes' sessions' after) :
    Played venue (lines ++ lines') (emissions ++ emissions') (outcomes ++ outcomes')
      (sessions ++ sessions') after := by
  have listed : numbers (lines ++ lines') = numbers lines ++ numbers lines' :=
    List.filterMap_append
  refine ⟨first.transcript.append rest.transcript, ?_, ?_, ?_, ?_, ?_⟩
  · rw [listed]
    exact Game.submitAll_append first.submitted rest.submitted
  · rw [rest.visited, first.visited, List.append_assoc]
  · rw [listed, List.map_append, List.map_append, first.guesses, rest.guesses]
  · rw [List.map_append, List.map_append, first.decided, rest.decided]
  · exact List.forall_mem_append.mpr ⟨first.spent, rest.spent⟩

section Lines

variable {State : Type} {ask : State → Int32 → Except FramingError Outcome × State}
  {state next : State} {line : String} {lines : List String} {rest : List (Option String)}

theorem play_quit (quit : Text.trim line = "q") :
    play ask state (some line :: rest) = (⟨0, [prompt, .line "Exiting."]⟩, state) := by
  simp only [play, entry, if_pos quit]

theorem play_number {number : Int32} {outcome : Outcome} (stays : Text.trim line ≠ "q")
    (read : Text.int32? (Text.trim line) = some number)
    (asked : ask state number = (.ok outcome, next)) :
    play ask state (some line :: rest) =
      ((play ask next rest).1.preceded
          [prompt, .log ⟨.info, s!"Sending guess: {number}"⟩, .line (verdict number outcome)],
        (play ask next rest).2) := by
  simp only [play, entry, if_neg stays, read, asked]
  rfl

theorem play_other (stays : Text.trim line ≠ "q")
    (unread : Text.int32? (Text.trim line) = none) :
    play ask state (some line :: rest) =
      ((play ask state rest).1.preceded [prompt, .line s!"Not a number: {Text.trim line}"],
        (play ask state rest).2) := by
  simp only [play, entry, if_neg stays, unread]
  rfl

theorem stays_of_mem_heard (member : line ∈ heard lines) : Text.trim line ≠ "q" := by
  simpa using List.mem_takeWhile_imp member

/-- All lines are heard, or all in front of one that ends the game. -/
theorem heard_cases (lines : List String) :
    heard lines = lines ∨
      ∃ quit later, Text.trim quit = "q" ∧ lines = heard lines ++ quit :: later := by
  have split := List.takeWhile_append_dropWhile (p := fun line => Text.trim line ≠ "q") (l := lines)
  cases unheard : lines.dropWhile fun line => Text.trim line ≠ "q" with
  | nil =>
      rw [unheard, List.append_nil] at split
      exact Or.inl split
  | cons quit later =>
      have first := List.head?_dropWhile_not (fun line => Text.trim line ≠ "q") lines
      rw [unheard] at first split
      exact Or.inr ⟨quit, later, by simpa using first, split.symm⟩

end Lines

variable {venue : Venue} {line : String} {lines : List String}

/-- The tool plays a line that does not end the game and then goes on with the lines after it. -/
theorem play_line (stays : Text.trim line ≠ "q")
    (reliable : ∀ exchange ∈ venue.exchanges, exchange.Reliable)
    (room : venue.game.HasRoom (numbers [line]).length) :
    ∃ emissions outcomes sessions next,
      Played venue [line] emissions outcomes sessions next ∧
        (∀ exchange ∈ next.exchanges, exchange.Reliable) ∧
        ∀ rest, play (Venue.guessOnce (.ok ())) venue (some line :: rest) =
          ((play (Venue.guessOnce (.ok ())) next rest).1.preceded emissions,
            (play (Venue.guessOnce (.ok ())) next rest).2) := by
  cases read : Text.int32? (Text.trim line) with
  | none =>
      have nothing : numbers [line] = [] := List.filterMap_cons_none read
      have played : Played venue [line] _ [] [] venue := {
        transcript := .single (.other read)
        submitted := by rw [nothing]; rfl
        visited := (List.append_nil _).symm
        guesses := by rw [nothing]; rfl
        decided := rfl
        spent := nofun }
      exact ⟨_, _, _, _, played, reliable, fun rest => play_other stays read⟩
  | some number =>
      have one : numbers [line] = [number] := List.filterMap_cons_some read
      rw [one] at room
      rcases Venue.guessOnce_of_room reliable room number with
        ⟨next, session, submitted, guessed, decided, spent, asked⟩
      have played : Played venue [line] _ [Outcome.compare venue.game.target number] [session]
          { venue with
            game := next
            exchanges := venue.exchanges.tail
            visited := venue.visited ++ [session] } := {
        transcript := .single (.number read (told_verdict _ _) submitted)
        submitted := by rw [one]; exact Game.submitAll_cons submitted rfl
        visited := rfl
        guesses := by rw [one, List.map_singleton, guessed, List.map_singleton]
        decided := by rw [List.map_singleton, decided, List.map_singleton]
        spent := List.forall_mem_singleton.mpr spent }
      exact ⟨_, _, _, _, played,
        fun exchange member => reliable exchange (List.mem_of_mem_tail member),
        fun rest => play_number stays read asked⟩

/-- The tool plays lines that do not end the game and then goes on with the lines after them. -/
theorem play_append (stay : ∀ line ∈ lines, Text.trim line ≠ "q")
    (reliable : ∀ exchange ∈ venue.exchanges, exchange.Reliable)
    (room : venue.game.HasRoom (numbers lines).length) :
    ∃ emissions outcomes sessions after,
      Played venue lines emissions outcomes sessions after ∧
        ∀ rest, play (Venue.guessOnce (.ok ())) venue (lines.map some ++ rest) =
          ((play (Venue.guessOnce (.ok ())) after rest).1.preceded emissions,
            (play (Venue.guessOnce (.ok ())) after rest).2) := by
  induction lines generalizing venue with
  | nil => exact ⟨[], [], [], venue, .nil venue, fun _ => rfl⟩
  | cons line lines ih =>
      rcases List.forall_mem_cons.mp stay with ⟨stays, stayRest⟩
      have listed : numbers (line :: lines) = numbers [line] ++ numbers lines :=
        List.filterMap_append (l := [line])
      rw [listed, List.length_append] at room
      rcases play_line stays reliable (room.mono (Nat.le_add_right _ _)) with
        ⟨emissions, outcomes, sessions, next, first, reliableRest, ran⟩
      rcases ih stayRest reliableRest (Game.hasRoom_of_submitAll room first.submitted) with
        ⟨emissions', outcomes', sessions', after, played, ranRest⟩
      refine ⟨emissions ++ emissions', outcomes ++ outcomes', sessions ++ sessions', after,
        first.append played, ?_⟩
      intro rest
      rw [List.map_cons, List.cons_append, ran, ranRest, Report.preceded_preceded]

/--
The player's tool plays every number once. Of whatever lines, those in front of the first that reads
`q` are answered in turn, each by the target that the game has when the line comes. The numbers on
them are submitted in order, each over a session of its own, and these sessions end in the ordinary
way with one guess answered. Nothing after the line that reads `q` matters.
-/
theorem plays_each_number_once (venue : Venue) (lines : List String)
    (reliable : ∀ exchange ∈ venue.exchanges, exchange.Reliable)
    (room : venue.game.HasRoom (numbers (heard lines)).length) :
    ∃ emissions outcomes sessions after,
      Played venue (heard lines) emissions outcomes sessions after ∧
      play (Venue.guessOnce (.ok ())) venue (lines.map some) =
        (⟨0, emissions ++ farewell lines⟩, after) ∧
      (heard lines ≠ lines → ∀ later : List (Option String),
        play (Venue.guessOnce (.ok ())) venue
            ((lines.take ((heard lines).length + 1)).map some ++ later) =
          (⟨0, emissions ++ farewell lines⟩, after)) := by
  rcases play_append (fun _ => stays_of_mem_heard) reliable room with
    ⟨emissions, outcomes, sessions, after, played, ran⟩
  refine ⟨emissions, outcomes, sessions, after, played, ?_⟩
  rcases heard_cases lines with whole | ⟨quit, later, quits, split⟩
  · have ended := ran []
    rw [List.append_nil, whole] at ended
    rw [farewell, if_pos whole]
    refine ⟨ended, ?_⟩
    intro cut
    exact absurd whole cut
  · have cut : heard lines ≠ lines := by
      intro whole
      have lengths := congrArg List.length split
      rw [whole, List.length_append, List.length_cons] at lengths
      omega
    have stopped (later : List (Option String)) :
        play (Venue.guessOnce (.ok ())) venue ((heard lines).map some ++ some quit :: later) =
          (⟨0, emissions ++ farewell lines⟩, after) := by
      rw [ran, play_quit quits, farewell, if_neg cut]
      rfl
    have given : lines.map some = (heard lines).map some ++ some quit :: later.map some := by
      rw [← List.map_cons, ← List.map_append, ← split]
    have front : lines.take ((heard lines).length + 1) = heard lines ++ [quit] :=
      (congrArg (List.take _) split).trans (List.take_length_add_append 1)
    constructor
    · rw [given]
      exact stopped _
    · intro _ others
      rw [front, List.map_append, List.append_assoc]
      exact stopped others

/-- Three numbers, the second of which wins a round, on connections that pass messages on piece by
piece, among lines that hold none. -/
theorem plays_across_a_win :
    let exchange : Exchange :=
      ⟨[.upTo 2, .notReady], [.octets 0, .pause, .octets 2], [.notReady, .upTo 4],
        [.interruption "Interrupted", .octets 3]⟩
    let venue : Venue := ⟨.persistent, ⟨.default, 7, 0, 0, []⟩, [exchange, exchange], []⟩
    let lines : List String := ["5", " +7 ", "seven", "-3", " q", "9"]
    (∀ exchange ∈ venue.exchanges, exchange.Reliable) ∧
      venue.game.HasRoom (numbers (heard lines)).length ∧
      ∃ emissions after,
        Transcript venue.game ["5", " +7 ", "seven", "-3"] emissions after.game ∧
        after.game.snapshot = ⟨0, 1, 1⟩ ∧
        after.visited.map Session.guesses = [[5], [7], [-3]] ∧
        after.visited.map Session.outcomes = [[.higher], [.hit], [.higher]] ∧
        play (Venue.guessOnce (.ok ())) venue (lines.map some) =
          (⟨0, emissions ++ [.output "Enter a guess: ", .line "Exiting."]⟩, after) := by
  intro exchange venue lines
  have first : heard lines = ["5", " +7 ", "seven", "-3"] := by decide
  have read : numbers ["5", " +7 ", "seven", "-3"] = [5, 7, -3] := by decide
  have reliable : ∀ exchange ∈ venue.exchanges, exchange.Reliable := by
    have works : exchange.Reliable :=
      ⟨by simp [exchange, Acceptance.Willing], by simp [exchange, Acceptance.Willing]⟩
    simp [venue, works]
  have room : venue.game.HasRoom (numbers (heard lines)).length := by
    rw [first, read]
    exact ⟨by decide, by decide⟩
  have decisions : venue.game.submitAll [5, 7, -3] =
      .ok ([.higher, .hit, .higher], ⟨.default, 0, 1, 1, []⟩) := rfl
  rcases plays_each_number_once venue lines reliable room with
    ⟨emissions, outcomes, sessions, after, played, ran, -⟩
  rw [first] at played
  have submitted := played.submitted
  have guesses := played.guesses
  rw [read] at submitted guesses
  rcases Prod.mk.inj (Except.ok.inj (decisions.symm.trans submitted)) with ⟨rfl, game⟩
  refine ⟨reliable, room, emissions, after, played.transcript, ?_, ?_, ?_, ran⟩
  · rw [← game]
    rfl
  · rw [played.visited]
    exact guesses
  · rw [played.visited]
    exact played.decided

end GuessTool

end CommandLine

end VirtualNet
