import VirtualNet.Game

/-!
# Players around one game

Any number of players submit guesses to one game, each its own guesses in order. A submission has
the game to itself from its beginning to its end, so players that play side by side take turns.
Turns are given in any order, and so a list of turns stands for every way in which the submissions
of the players can be interleaved. A turn that is given to a player with no guess left changes
nothing.
-/

namespace VirtualNet

/-- A player with the guesses that it has left to submit and the outcomes that it was told. -/
structure Player where
  left : List Int32
  told : List Outcome
  deriving DecidableEq, Repr

/-- A game and the players that share it. -/
structure Contest where
  game : Game
  players : List Player
  deriving DecidableEq, Repr

namespace Contest

/-- Players with these guesses before their first turns. -/
def start (game : Game) (guesses : List (List Int32)) : Contest :=
  ⟨game, guesses.map fun left => ⟨left, []⟩⟩

/-- Lets a player submit its next guess. -/
def turn (contest : Contest) (player : Nat) : Except Overflow Contest :=
  match contest.players[player]? with
  | some ⟨guess :: left, told⟩ => do
    let (outcome, game) ← contest.game.submit guess
    return ⟨game, contest.players.set player ⟨left, told ++ [outcome]⟩⟩
  | some ⟨[], _⟩ | none => .ok contest

/-- Gives turns to the listed players, one after another. -/
def run (contest : Contest) : List Nat → Except Overflow Contest
  | [] => .ok contest
  | player :: rest => do (← contest.turn player).run rest

end Contest

end VirtualNet
