import VirtualNet.Contest
import VirtualNet.Proofs.Game.Rounds

/-!
# Guesses that miss commute

A guess that misses leaves the target where it was, and so the guesses of players none of whom is
going to hit are told by that target, whoever has the next turn. `Contest.outlook` is what such a
contest comes to. A turn succeeds and does not change the outlook (`turn_of_missing`), and a run
takes from every player as many guesses as it was given turns (`run_of_missing`). A contest in which
nobody has a guess left has come to its outlook, so the order of the turns does not tell in the end
(`misses_commute`).
-/

namespace VirtualNet

namespace Game

theorem submit_of_miss {game : Game} {guess : Int32} (missed : guess ≠ game.target)
    (room : game.totalGuesses.toNat + 1 < UInt64.size) :
    game.submit guess = .ok (Outcome.compare game.target guess,
      { game with totalGuesses := game.totalGuesses + 1 }) := by
  have counted := (@increment_of_room game.totalGuesses 0 room).1
  cases told : Outcome.compare game.target guess with
  | hit => exact absurd (Outcome.compare_eq_hit_iff.mp told) missed
  | lower | higher =>
      simp only [submit, counted, told]
      rfl

end Game

namespace Player

/-- The player when a target has told all the guesses that it had left. -/
def finished (target : Int32) (player : Player) : Player :=
  ⟨[], player.told ++ player.left.map (Outcome.compare target)⟩

theorem finished_submitted (target guess : Int32) (left : List Int32) (told : List Outcome) :
    finished target ⟨left, told ++ [Outcome.compare target guess]⟩ =
      finished target ⟨guess :: left, told⟩ := by
  simp only [finished, List.map_cons, List.append_assoc, List.singleton_append]

end Player

namespace Contest

variable {contest : Contest}

/-- How many guesses the players have left between them. -/
def pending (contest : Contest) : Nat :=
  (contest.players.flatMap Player.left).length

/-- The guesses that a player has left; there are none for a player that there is not. -/
def leftTo (contest : Contest) (player : Nat) : List Int32 :=
  (contest.players[player]?.map Player.left).getD []

/-- No guess that is left hits the target, and there is room to count them all. -/
structure Missing (contest : Contest) : Prop where
  misses : ∀ player ∈ contest.players, contest.game.target ∉ player.left
  room : contest.game.totalGuesses.toNat + contest.pending < UInt64.size

/-- What a contest comes to if every guess that is left misses. -/
def outlook (contest : Contest) : Contest where
  game := { contest.game with
    totalGuesses := .ofNat (contest.game.totalGuesses.toNat + contest.pending) }
  players := contest.players.map (Player.finished contest.game.target)

section Submitting

variable {player : Nat} {guess : Int32} {left : List Int32} {told : List Outcome}

/-- The contest after a guess of one player that missed. -/
def afterMiss (contest : Contest) (player : Nat) (guess : Int32) (left : List Int32)
    (told : List Outcome) : Contest where
  game := { contest.game with totalGuesses := contest.game.totalGuesses + 1 }
  players := contest.players.set player
    ⟨left, told ++ [Outcome.compare contest.game.target guess]⟩

/-- Players of whom one submitted its next guess. -/
theorem length_left_set {players : List Player}
    (submits : players[player]? = some ⟨guess :: left, told⟩) (told' : List Outcome) :
    ((players.set player ⟨left, told'⟩).flatMap Player.left).length + 1 =
      (players.flatMap Player.left).length := by
  induction players generalizing player with
  | nil => cases submits
  | cons first rest ih =>
      cases player with
      | zero =>
          cases submits
          simp only [List.set_cons_zero, List.flatMap_cons, List.length_append, List.length_cons]
          omega
      | succ player =>
          have fewer := ih submits
          simp only [List.set_cons_succ, List.flatMap_cons, List.length_append]
          omega

theorem pending_afterMiss (submits : contest.players[player]? = some ⟨guess :: left, told⟩) :
    (contest.afterMiss player guess left told).pending + 1 = contest.pending :=
  length_left_set submits _

theorem leftTo_afterMiss (submits : contest.players[player]? = some ⟨guess :: left, told⟩)
    (other : Nat) :
    (contest.afterMiss player guess left told).leftTo other =
      (contest.leftTo other).drop ([player].count other) := by
  by_cases same : player = other
  · subst same
    have present : player < contest.players.length := (List.getElem?_eq_some_iff.mp submits).1
    simp only [leftTo, afterMiss, submits, List.getElem?_set_self present, Option.map_some,
      Option.getD_some, List.count_singleton_self, List.drop_succ_cons, List.drop_zero]
  · have none : [player].count other = 0 := List.count_eq_zero.mpr (by simpa using Ne.symm same)
    simp only [leftTo, afterMiss, List.getElem?_set_ne same, none, List.drop_zero]

theorem Missing.room_for_one (missing : contest.Missing)
    (submits : contest.players[player]? = some ⟨guess :: left, told⟩) :
    contest.game.totalGuesses.toNat + 1 < UInt64.size ∧
      (contest.game.totalGuesses + 1).toNat +
        (contest.afterMiss player guess left told).pending < UInt64.size := by
  have room := missing.room
  rw [← pending_afterMiss submits] at room
  exact ⟨by omega, (Game.increment_of_room room).2⟩

theorem Missing.afterMiss (missing : contest.Missing)
    (submits : contest.players[player]? = some ⟨guess :: left, told⟩) :
    (contest.afterMiss player guess left told).Missing where
  misses := by
    intro other present
    rcases List.mem_or_eq_of_mem_set present with before | rfl
    · exact missing.misses other before
    · exact fun later => missing.misses _ (List.mem_of_getElem? submits) (.tail guess later)
  room := (missing.room_for_one submits).2

theorem outlook_afterMiss (missing : contest.Missing)
    (submits : contest.players[player]? = some ⟨guess :: left, told⟩) :
    (contest.afterMiss player guess left told).outlook = contest.outlook := by
  have counted : (contest.game.totalGuesses + 1).toNat = contest.game.totalGuesses.toNat + 1 := by
    have room := (missing.room_for_one submits).1
    simp only [UInt64.toNat_add, UInt64.reduceToNat, UInt64.size] at room ⊢
    omega
  have guesses : (contest.game.totalGuesses + 1).toNat +
      (contest.afterMiss player guess left told).pending =
        contest.game.totalGuesses.toNat + contest.pending := by
    rw [counted, ← pending_afterMiss submits]
    omega
  have players : (contest.players.set player
      ⟨left, told ++ [Outcome.compare contest.game.target guess]⟩).map
        (Player.finished contest.game.target) =
      contest.players.map (Player.finished contest.game.target) := by
    rcases List.getElem?_eq_some_iff.mp submits with ⟨present, entry⟩
    have finished := congrArg (Player.finished contest.game.target) entry
    rw [← List.getElem_map (Player.finished contest.game.target) (h := by simpa)] at finished
    rw [List.map_set, Player.finished_submitted, ← finished, List.set_getElem_self]
  simp only [outlook, afterMiss, players, Contest.mk.injEq, Game.mk.injEq, true_and, and_true]
  exact congrArg UInt64.ofNat guesses

end Submitting

theorem players_of_leftTo_eq_cons {player : Nat} {guess : Int32} {left : List Int32}
    (submits : contest.leftTo player = guess :: left) :
    ∃ told, contest.players[player]? = some ⟨guess :: left, told⟩ := by
  rcases present : contest.players[player]? with _ | ⟨own, told⟩
  · rw [leftTo, present] at submits
    cases submits
  · rw [leftTo, present] at submits
    cases submits
    exact ⟨told, rfl⟩

theorem turn_of_leftTo_eq_nil {player : Nat} (rests : contest.leftTo player = []) :
    contest.turn player = .ok contest := by
  rcases present : contest.players[player]? with _ | ⟨own, told⟩
  · rw [turn, present]
  · rw [leftTo, present] at rests
    cases rests
    rw [turn, present]

/-- A turn succeeds, and what the contest comes to stays the same. -/
theorem turn_of_missing (missing : contest.Missing) (player : Nat) :
    ∃ next, contest.turn player = .ok next ∧ next.Missing ∧ next.outlook = contest.outlook ∧
      ∀ other, next.leftTo other = (contest.leftTo other).drop ([player].count other) := by
  cases submits : contest.leftTo player with
  | nil =>
      -- The turn passes, and there is nothing that it could have taken from the player.
      refine ⟨contest, turn_of_leftTo_eq_nil submits, missing, rfl, ?_⟩
      intro other
      by_cases same : player = other
      · rw [← same, submits, List.drop_nil]
      · rw [List.count_singleton, beq_false_of_ne same, if_neg Bool.false_ne_true, List.drop_zero]
  | cons guess left =>
      rcases players_of_leftTo_eq_cons submits with ⟨told, present⟩
      have missed : guess ≠ contest.game.target := by
        rintro rfl
        exact missing.misses _ (List.mem_of_getElem? present) (.head left)
      have submitted := Game.submit_of_miss missed (missing.room_for_one present).1
      refine ⟨contest.afterMiss player guess left told, ?_, missing.afterMiss present,
        outlook_afterMiss missing present, leftTo_afterMiss present⟩
      simp only [turn, present, submitted]
      rfl

/-- A run of turns takes from every player as many guesses as it was given turns. -/
theorem run_of_missing (missing : contest.Missing) (turns : List Nat) :
    ∃ final, contest.run turns = .ok final ∧ final.outlook = contest.outlook ∧
      ∀ player, final.leftTo player = (contest.leftTo player).drop (turns.count player) := by
  induction turns generalizing contest with
  | nil => exact ⟨contest, rfl, rfl, fun player => by rw [List.count_nil, List.drop_zero]⟩
  | cons player rest ih =>
      rcases turn_of_missing missing player with ⟨next, taken, missingNext, same, leftNext⟩
      rcases ih missingNext with ⟨final, ran, sameFinal, leftFinal⟩
      refine ⟨final, ?_, sameFinal.trans same, ?_⟩
      · simp only [run, taken]
        exact ran
      · intro other
        rw [leftFinal, leftNext, List.drop_drop, ← List.count_append, List.singleton_append]

theorem outlook_eq_self (done : ∀ player, contest.leftTo player = []) :
    contest.outlook = contest := by
  have finished : ∀ player ∈ contest.players, player.left = [] := by
    intro player present
    rcases List.getElem?_of_mem present with ⟨index, entry⟩
    have none := done index
    rw [leftTo, entry] at none
    exact none
  have pending : contest.pending = 0 :=
    List.length_eq_zero_iff.mpr (List.flatMap_eq_nil_iff.mpr finished)
  have players : contest.players.map (Player.finished contest.game.target) = contest.players := by
    refine (List.map_congr_left fun player present => ?_).trans (List.map_id _)
    rw [Player.finished, finished player present, List.map_nil, List.append_nil,
      ← finished player present, id]
  rw [outlook, pending, players, Nat.add_zero, UInt64.ofNat_toNat]

section Start

variable {game : Game} {guesses : List (List Int32)}

theorem start_players :
    (start game guesses).players = guesses.map fun own => ⟨own, []⟩ := rfl

theorem pending_start : (start game guesses).pending = guesses.flatten.length := by
  rw [pending, start_players, List.flatMap_map]
  exact congrArg List.length List.flatMap_id

theorem leftTo_start (player : Nat) :
    (start game guesses).leftTo player = guesses[player]?.getD [] := by
  rw [leftTo, start_players, List.getElem?_map, Option.map_map]
  cases guesses[player]? <;> rfl

theorem missing_start (missing : ∀ own ∈ guesses, game.target ∉ own)
    (room : game.totalGuesses.toNat + guesses.flatten.length < UInt64.size) :
    (start game guesses).Missing where
  misses := by
    intro player present
    rcases List.mem_map.mp present with ⟨own, brought, rfl⟩
    exact missing own brought
  room := by rwa [pending_start]

theorem outlook_start :
    (start game guesses).outlook =
      ⟨{ game with totalGuesses := .ofNat (game.totalGuesses.toNat + guesses.flatten.length) },
        guesses.map fun own => ⟨[], own.map (Outcome.compare game.target)⟩⟩ := by
  rw [outlook, pending_start, start_players, List.map_map]
  rfl

end Start

/--
Guesses that miss commute. Whatever the game and whatever guesses its players bring, if none of
these is the target and the machine word can count them all, then every order of turns in which the
players come to submit all their guesses ends in the same contest. In it, each player was told what
the target makes of each of its own guesses, and the game is what it was, with the guesses counted.
-/
theorem misses_commute {game : Game} {guesses : List (List Int32)}
    (missing : ∀ own ∈ guesses, game.target ∉ own)
    (room : game.totalGuesses.toNat + guesses.flatten.length < UInt64.size) :
    ∃ totalGuesses : UInt64,
      totalGuesses.toNat = game.totalGuesses.toNat + guesses.flatten.length ∧
      ∀ turns : List Nat,
        (∀ player own, guesses[player]? = some own → own.length ≤ turns.count player) →
        (start game guesses).run turns = .ok ⟨{ game with totalGuesses },
          guesses.map fun own => ⟨[], own.map (Outcome.compare game.target)⟩⟩ := by
  refine ⟨_, UInt64.toNat_ofNat_of_lt' room, ?_⟩
  intro turns complete
  rcases run_of_missing (missing_start missing room) turns with ⟨final, ran, same, left⟩
  -- Everybody had turns enough, so the outlook that all turns kept has come about.
  have done : ∀ player, final.leftTo player = [] := by
    intro player
    rw [left, leftTo_start]
    cases brought : guesses[player]? with
    | none => exact List.drop_nil
    | some own => exact List.drop_eq_nil_of_le (complete player own brought)
  rw [ran, ← outlook_eq_self done, same, outlook_start]

/-- Three players, one of them without guesses; two orders of turns that end alike. -/
theorem misses_commute_three :
    let game : Game := ⟨⟨0, 1000⟩, 42, 5, 2, []⟩
    let guesses : List (List Int32) := [[7, 50], [], [41]]
    let final : Contest := ⟨{ game with totalGuesses := 8 },
      [⟨[], [.higher, .lower]⟩, ⟨[], []⟩, ⟨[], [.higher]⟩]⟩
    (∀ own ∈ guesses, game.target ∉ own) ∧
    game.totalGuesses.toNat + guesses.flatten.length < UInt64.size ∧
    (start game guesses).run [0, 0, 2] = .ok final ∧
    (start game guesses).run [2, 1, 0, 2, 0] = .ok final := by
  intro game guesses final
  have missing : ∀ own ∈ guesses, game.target ∉ own := by decide
  have room : game.totalGuesses.toNat + guesses.flatten.length < UInt64.size := by decide
  have complete (turns : List Nat) (enough : 2 ≤ turns.count 0 ∧ 1 ≤ turns.count 2) (player : Nat)
      (own : List Int32) (brought : guesses[player]? = some own) :
      own.length ≤ turns.count player := by
    rcases player with _ | _ | _ | beyond <;> cases brought
    · exact enough.1
    · exact Nat.zero_le _
    · exact enough.2
  rcases misses_commute missing room with ⟨totalGuesses, counted, commute⟩
  have total : totalGuesses = 8 := UInt64.toNat_inj.mp counted
  have ends (turns : List Nat) (enough : 2 ≤ turns.count 0 ∧ 1 ≤ turns.count 2) :
      (start game guesses).run turns = .ok final := by
    rw [commute turns (complete turns enough), total]
    rfl
  exact ⟨missing, room, ends _ (by decide), ends _ (by decide)⟩

end Contest

end VirtualNet
