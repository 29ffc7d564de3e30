import VirtualNet.Game

/-!
# The history of a game

Guesses that are submitted one after another, by whichever players, take the game through a
sequence of states. `Game.submitAll` plays such a sequence. A game whose counters are far enough
below the end of the machine word decides every guess of it.
-/

namespace VirtualNet

namespace Game

/-- Submits guesses in order; the outcomes come with the game after the last of them. -/
def submitAll (game : Game) : List Int32 → Except Overflow (List Outcome × Game)
  | [] => .ok ([], game)
  | guess :: rest => do
    let (outcome, next) ← game.submit guess
    let (outcomes, final) ← next.submitAll rest
    return (outcome :: outcomes, final)

/-- The counters of the game have room for so many guesses, whatever their outcomes. -/
structure HasRoom (game : Game) (count : Nat) : Prop where
  guesses : game.totalGuesses.toNat + count < UInt64.size
  rounds : game.roundsWon.toNat + count < UInt64.size

theorem HasRoom.mono {game : Game} {count fewer : Nat} (room : game.HasRoom count)
    (le : fewer ≤ count) : game.HasRoom fewer :=
  ⟨Nat.lt_of_le_of_lt (Nat.add_le_add_left le _) room.guesses,
    Nat.lt_of_le_of_lt (Nat.add_le_add_left le _) room.rounds⟩

theorem increment_of_room {counter : UInt64} {count : Nat}
    (room : counter.toNat + (count + 1) < UInt64.size) :
    increment counter = .ok (counter + 1) ∧ (counter + 1).toNat + count < UInt64.size := by
  have notLast : counter ≠ 18446744073709551615 := by
    rintro rfl
    simp only [UInt64.reduceToNat, UInt64.size] at room
    omega
  refine ⟨by rw [increment, if_neg notLast], ?_⟩
  simp only [UInt64.toNat_add, UInt64.reduceToNat, UInt64.size] at room ⊢
  omega

/-- A guess for which there is room is decided, and what room is left is left to the next one. -/
theorem submit_of_room {game : Game} {count : Nat} (room : game.HasRoom (count + 1))
    (guess : Int32) :
    ∃ next, game.submit guess = .ok (Outcome.compare game.target guess, next) ∧
      next.HasRoom count := by
  rcases increment_of_room room.guesses with ⟨counted, guesses⟩
  rcases increment_of_room room.rounds with ⟨won, rounds⟩
  have fewer : game.roundsWon.toNat + count < UInt64.size := by
    have := room.rounds
    omega
  have none : (0 : UInt64).toNat + count < UInt64.size := by
    have := room.guesses
    simp only [UInt64.reduceToNat]
    omega
  cases decided : Outcome.compare game.target guess with
  | hit =>
      let drawn := game.range.nextTarget game.target game.draws
      refine ⟨⟨game.range, drawn.1, 0, game.roundsWon + 1, drawn.2⟩, ?_, none, rounds⟩
      simp only [submit, counted, decided, nextRound, won]
      rfl
  | lower =>
      refine ⟨{ game with totalGuesses := game.totalGuesses + 1 }, ?_, guesses, fewer⟩
      simp only [submit, counted, decided]
      rfl
  | higher =>
      refine ⟨{ game with totalGuesses := game.totalGuesses + 1 }, ?_, guesses, fewer⟩
      simp only [submit, counted, decided]
      rfl

theorem submitAll_cons {game next final : Game} {guess : Int32} {rest : List Int32}
    {outcome : Outcome} {outcomes : List Outcome}
    (first : game.submit guess = .ok (outcome, next))
    (later : next.submitAll rest = .ok (outcomes, final)) :
    game.submitAll (guess :: rest) = .ok (outcome :: outcomes, final) := by
  simp only [submitAll, first, later, bind, Except.bind, pure, Except.pure]

theorem submitAll_cons_eq_ok {game final : Game} {guess : Int32} {rest : List Int32}
    {outcomes : List Outcome} (played : game.submitAll (guess :: rest) = .ok (outcomes, final)) :
    ∃ outcome next later, game.submit guess = .ok (outcome, next) ∧
      next.submitAll rest = .ok (later, final) ∧ outcomes = outcome :: later := by
  simp only [submitAll, bind, Except.bind] at played
  cases first : game.submit guess with
  | error cause => simp only [first, reduceCtorEq] at played
  | ok decided =>
      simp only [first] at played
      cases later : decided.2.submitAll rest with
      | error cause => simp only [later, reduceCtorEq] at played
      | ok ended =>
          simp only [later, pure, Except.pure, Except.ok.injEq, Prod.mk.injEq] at played
          rcases played with ⟨rfl, rfl⟩
          exact ⟨decided.1, decided.2, ended.1, rfl, later, rfl⟩

/-- Guesses that come after a history continue it. -/
theorem submitAll_append {game between final : Game} {guesses later : List Int32}
    {outcomes outcomes' : List Outcome}
    (played : game.submitAll guesses = .ok (outcomes, between))
    (continued : between.submitAll later = .ok (outcomes', final)) :
    game.submitAll (guesses ++ later) = .ok (outcomes ++ outcomes', final) := by
  induction guesses generalizing game outcomes with
  | nil =>
      cases played
      exact continued
  | cons first rest ih =>
      rcases submitAll_cons_eq_ok played with ⟨decided, after, ended, submitted, playedRest, rfl⟩
      exact submitAll_cons submitted (ih playedRest)

/-- A game with room for some guesses decides them all. -/
theorem submitAll_of_room {game : Game} {guesses : List Int32}
    (room : game.HasRoom guesses.length) :
    ∃ outcomes final, game.submitAll guesses = .ok (outcomes, final) := by
  induction guesses generalizing game with
  | nil => exact ⟨[], game, rfl⟩
  | cons guess rest ih =>
      rcases submit_of_room room guess with ⟨next, submitted, roomAfter⟩
      rcases ih roomAfter with ⟨outcomes, final, continued⟩
      exact ⟨_, final, submitAll_cons submitted continued⟩

/-- What room the guesses of a history leave. -/
theorem hasRoom_of_submitAll {game final : Game} {guesses : List Int32} {count : Nat}
    {outcomes : List Outcome} (room : game.HasRoom (guesses.length + count))
    (played : game.submitAll guesses = .ok (outcomes, final)) : final.HasRoom count := by
  induction guesses generalizing game outcomes with
  | nil =>
      cases played
      exact room.mono (Nat.le_add_left _ _)
  | cons guess rest ih =>
      rcases submitAll_cons_eq_ok played with ⟨decided, after, later, submitted, continued, rfl⟩
      have roomFirst : game.HasRoom (rest.length + count + 1) :=
        room.mono (by rw [List.length_cons]; omega)
      rcases submit_of_room roomFirst guess with ⟨next, submitted', roomAfter⟩
      rw [submitted'] at submitted
      cases submitted
      exact ih roomAfter continued

end Game

end VirtualNet
