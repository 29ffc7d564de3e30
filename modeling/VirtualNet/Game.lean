import VirtualNet.ConfigError
import VirtualNet.IoError

/-!
# The guessing game

A game holds a target that its players try to guess. Every guess is counted; a guess that matches
ends the round, and the next target is drawn from the game's range. The draws that the random
source will make are part of the game: `Game.draws` lists them in order. A source whose listed
draws are used up goes on with the least value of the range that may be the next target, so every
game has a next target.

`Game.submit` decides a guess. Its counters are machine words, and counting past the last of them
is an overflow.
-/

namespace VirtualNet

/-- The range that targets are drawn from, without its upper end. -/
structure TargetRange where
  lower : Int32
  upper : Int32
  deriving DecidableEq, Repr

namespace TargetRange

/-- The range of a game for which none was chosen. -/
def default : TargetRange := ⟨0, 1000⟩

/-- A range must have a value. -/
def validate (range : TargetRange) : Except ConfigError Unit :=
  if range.upper ≤ range.lower then .error (.invalidTargetRange range.lower range.upper)
  else .ok ()

/-- How many values a range has. -/
def size (range : TargetRange) : Nat :=
  (range.upper.toInt - range.lower.toInt).toNat

/-- Whether a value is in a range. -/
def contains (range : TargetRange) (value : Int32) : Bool :=
  range.lower ≤ value ∧ value < range.upper

/-- The least value of a range with two values or more that differs from a given one. -/
def leastOther (range : TargetRange) (value : Int32) : Int32 :=
  if range.lower = value then range.lower + 1 else range.lower

/--
The target after `previous` and the draws that are left. A range with two values or more is drawn
from until the value differs from `previous`.
-/
def nextTarget (range : TargetRange) (previous : Int32) : List Int32 → Int32 × List Int32
  | [] => (if range.size < 2 then range.lower else range.leastOther previous, [])
  | draw :: rest =>
    if range.size < 2 ∨ draw ≠ previous then (draw, rest) else nextTarget range previous rest

end TargetRange

/-- How the target relates to a guess. -/
inductive Outcome where
  /-- The target is lower than the guess. -/
  | lower
  /-- The target is higher than the guess. -/
  | higher
  | hit
  deriving DecidableEq, Repr

namespace Outcome

/-- The number that tells an outcome in a response. -/
def wireValue : Outcome → Int32
  | .higher => -1
  | .hit => 0
  | .lower => 1

/-- The outcome that a response tells; only the sign of its number counts. -/
def ofWireValue (value : Int32) : Outcome :=
  if value < 0 then .higher else if value = 0 then .hit else .lower

/-- How a target relates to a guess. -/
def compare (target guess : Int32) : Outcome :=
  if guess < target then .higher else if target < guess then .lower else .hit

@[simp]
theorem ofWireValue_wireValue (outcome : Outcome) : ofWireValue outcome.wireValue = outcome := by
  cases outcome <;> decide

end Outcome

/-- What may be seen of a game. -/
structure Snapshot where
  target : Int32
  totalGuesses : UInt64
  roundsWon : UInt64
  deriving DecidableEq, Repr

/-- A game between rounds of guesses. -/
structure Game where
  range : TargetRange
  target : Int32
  /-- The guesses of the round that is being played. -/
  totalGuesses : UInt64
  roundsWon : UInt64
  /-- The draws that the random source will make. -/
  draws : List Int32
  deriving DecidableEq, Repr

namespace Game

/-- Starts a game with a given first target, which need not be in the range. -/
def withTarget (range : TargetRange) (target : Int32) (draws : List Int32) :
    Except ConfigError Game := do
  range.validate
  return ⟨range, target, 0, 0, draws⟩

/-- Starts a game with a target that is drawn. -/
def create (range : TargetRange) : List Int32 → Except ConfigError Game
  | [] => withTarget range range.lower []
  | draw :: rest => withTarget range draw rest

/-- What may be seen of the game. -/
def snapshot (game : Game) : Snapshot :=
  ⟨game.target, game.totalGuesses, game.roundsWon⟩

/-- One more than a counter, if the machine word has room for it. -/
def increment (counter : UInt64) : Except Overflow UInt64 :=
  if counter = 18446744073709551615 then .error .addition else .ok (counter + 1)

/-- The game after its target was hit. -/
def nextRound (game : Game) : Except Overflow Game := do
  let (target, draws) := game.range.nextTarget game.target game.draws
  let roundsWon ← increment game.roundsWon
  return { game with target, draws, roundsWon, totalGuesses := 0 }

/-- Counts a guess and decides it; a hit starts the next round. -/
def submit (game : Game) (guess : Int32) : Except Overflow (Outcome × Game) := do
  let totalGuesses ← increment game.totalGuesses
  match Outcome.compare game.target guess with
  | .hit => return (.hit, ← game.nextRound)
  | outcome => return (outcome, { game with totalGuesses })

end Game

end VirtualNet
