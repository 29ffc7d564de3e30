import VirtualNet.Proofs.Game.History

/-!
# The rounds of a game

`Decides` is the rule by which a guess is decided: a guess that misses only counts, and a hit
starts a round with nothing counted and a target that is drawn. `Plays` is a history of decided
guesses, and what a whole history leaves behind follows by induction on it. The rounds won are its
hits, and the target and the count of the round being played go back to the last hit, or to the
beginning if there was none (`history_of_guesses`).
-/

namespace VirtualNet

namespace Outcome

variable {target guess : Int32}

theorem compare_eq_higher_iff : compare target guess = .higher ↔ guess < target := by
  unfold compare
  split
  · rename_i below
    exact iff_of_true rfl below
  · rename_i notBelow
    refine iff_of_false ?_ notBelow
    split <;> exact nofun

theorem compare_eq_lower_iff : compare target guess = .lower ↔ target < guess := by
  unfold compare
  split
  · rename_i below
    exact iff_of_false nofun (Int32.lt_asymm below)
  · split
    · rename_i above
      exact iff_of_true rfl above
    · rename_i notAbove
      exact iff_of_false nofun notAbove

theorem compare_eq_hit_iff : compare target guess = .hit ↔ guess = target := by
  simp only [compare, Int32.lt_iff_toInt_lt, ← Int32.toInt_inj]
  split
  · rename_i below
    exact iff_of_false nofun (Int.ne_of_lt below)
  · split
    · rename_i above
      exact iff_of_false nofun (Int.ne_of_gt above)
    · exact iff_of_true rfl (by omega)

end Outcome

namespace Game

theorem increment_eq_ok {counter counted : UInt64} (room : increment counter = .ok counted) :
    counted = counter + 1 ∧ counted.toNat = counter.toNat + 1 := by
  unfold increment at room
  split at room
  · contradiction
  · rename_i notLast
    cases room
    refine ⟨rfl, ?_⟩
    have bound := counter.toNat_lt
    simp only [← UInt64.toNat_inj, UInt64.reduceToNat] at notLast
    simp only [UInt64.toNat_add, UInt64.reduceToNat]
    omega

/-- What a guess that is decided tells its player, and the game that it leaves. -/
inductive Decides (game : Game) (guess : Int32) : Outcome → Game → Prop where
  | miss {outcome : Outcome} {totalGuesses : UInt64}
      (told : Outcome.compare game.target guess = outcome) (missed : outcome ≠ .hit)
      (counted : increment game.totalGuesses = .ok totalGuesses) :
      Decides game guess outcome { game with totalGuesses := totalGuesses }
  | hit {target : Int32} {draws : List Int32} {roundsWon : UInt64} (equal : guess = game.target)
      (drawn : game.range.nextTarget game.target game.draws = (target, draws))
      (won : increment game.roundsWon = .ok roundsWon) :
      Decides game guess .hit ⟨game.range, target, 0, roundsWon, draws⟩

/-- Guesses that are decided one after another, with their outcomes and the game after them. -/
inductive Plays : Game → List Int32 → List Outcome → Game → Prop where
  | nil {game : Game} : Plays game [] [] game
  | cons {game next final : Game} {guess : Int32} {guesses : List Int32} {outcome : Outcome}
      {outcomes : List Outcome} (decides : game.Decides guess outcome next)
      (plays : Plays next guesses outcomes final) :
      Plays game (guess :: guesses) (outcome :: outcomes) final

variable {game next final : Game} {guess : Int32} {outcome : Outcome}
  {guesses before after : List Int32} {outcomes : List Outcome}

theorem nextRound_eq_ok (renewed : game.nextRound = .ok next) :
    ∃ target draws roundsWon, game.range.nextTarget game.target game.draws = (target, draws) ∧
      increment game.roundsWon = .ok roundsWon ∧
      next = ⟨game.range, target, 0, roundsWon, draws⟩ := by
  rcases drawn : game.range.nextTarget game.target game.draws with ⟨target, draws⟩
  simp only [nextRound, drawn, bind, Except.bind] at renewed
  cases won : increment game.roundsWon with
  | error cause => simp only [won, reduceCtorEq] at renewed
  | ok roundsWon =>
      simp only [won, pure, Except.pure, Except.ok.injEq] at renewed
      exact ⟨target, draws, roundsWon, rfl, rfl, renewed.symm⟩

theorem decides_of_submit (decided : game.submit guess = .ok (outcome, next)) :
    game.Decides guess outcome next := by
  simp only [submit, bind, Except.bind] at decided
  cases counted : increment game.totalGuesses with
  | error cause => simp only [counted, reduceCtorEq] at decided
  | ok totalGuesses =>
      simp only [counted] at decided
      split at decided
      · rename_i told
        cases renewed : game.nextRound with
        | error cause => simp only [renewed, reduceCtorEq] at decided
        | ok later =>
            simp only [renewed, pure, Except.pure, Except.ok.injEq, Prod.mk.injEq] at decided
            rcases decided with ⟨rfl, rfl⟩
            rcases nextRound_eq_ok renewed with ⟨target, draws, roundsWon, drawn, won, rfl⟩
            exact .hit (Outcome.compare_eq_hit_iff.mp told) drawn won
      · rename_i missed
        simp only [pure, Except.pure, Except.ok.injEq, Prod.mk.injEq] at decided
        rcases decided with ⟨told, rfl⟩
        exact .miss told (told ▸ missed) counted

theorem Decides.outcome_eq (decides : game.Decides guess outcome next) :
    outcome = Outcome.compare game.target guess := by
  cases decides with
  | miss told _ _ => exact told.symm
  | hit equal _ _ => exact (Outcome.compare_eq_hit_iff.mpr equal).symm

/-- A guess that misses is counted and changes nothing else. -/
theorem Decides.counted_of_miss (decides : game.Decides guess outcome next)
    (missed : outcome ≠ .hit) :
    next = { game with totalGuesses := game.totalGuesses + 1 } ∧
      next.totalGuesses.toNat = game.totalGuesses.toNat + 1 := by
  cases decides with
  | miss _ _ counted =>
      rcases increment_eq_ok counted with ⟨rfl, oneMore⟩
      exact ⟨rfl, oneMore⟩
  | hit _ _ _ => contradiction

theorem Decides.target_of_miss (decides : game.Decides guess outcome next)
    (missed : outcome ≠ .hit) : next.target = game.target := by
  rw [(decides.counted_of_miss missed).1]

theorem Decides.renewed_of_hit (decides : game.Decides guess .hit next) :
    next.target = (game.range.nextTarget game.target game.draws).1 ∧
      next.totalGuesses.toNat = 0 := by
  cases decides with
  | miss _ missed _ => contradiction
  | hit _ drawn _ => exact ⟨by rw [drawn], rfl⟩

theorem Decides.range_eq (decides : game.Decides guess outcome next) : next.range = game.range := by
  cases decides with
  | miss _ _ _ => rfl
  | hit _ _ _ => rfl

theorem Decides.roundsWon_eq (decides : game.Decides guess outcome next) :
    next.roundsWon.toNat = game.roundsWon.toNat + [outcome].count .hit := by
  cases decides with
  | miss _ missed _ => rw [List.count_eq_zero_of_not_mem (by simpa using missed.symm), Nat.add_zero]
  | hit _ _ won => exact (increment_eq_ok won).2

/-! ### Whole histories -/

theorem submitAll_append_eq_ok (played : game.submitAll (before ++ after) = .ok (outcomes, final)) :
    ∃ earlier between later, game.submitAll before = .ok (earlier, between) ∧
      between.submitAll after = .ok (later, final) ∧ outcomes = earlier ++ later := by
  induction before generalizing game outcomes with
  | nil => exact ⟨[], game, outcomes, rfl, played, rfl⟩
  | cons guess rest ih =>
      rcases submitAll_cons_eq_ok played with ⟨outcome, next, told, decided, continued, rfl⟩
      rcases ih continued with ⟨earlier, between, later, playedRest, ended, rfl⟩
      exact ⟨outcome :: earlier, between, later, submitAll_cons decided playedRest, ended, rfl⟩

theorem plays_of_submitAll (played : game.submitAll guesses = .ok (outcomes, final)) :
    game.Plays guesses outcomes final := by
  induction guesses generalizing game outcomes with
  | nil =>
      cases played
      exact .nil
  | cons guess rest ih =>
      rcases submitAll_cons_eq_ok played with ⟨outcome, next, later, decided, continued, rfl⟩
      exact .cons (decides_of_submit decided) (ih continued)

theorem Plays.range_eq (plays : game.Plays guesses outcomes final) : final.range = game.range := by
  induction plays with
  | nil => rfl
  | cons decides _ ih => exact ih.trans decides.range_eq

theorem Plays.roundsWon_eq (plays : game.Plays guesses outcomes final) :
    final.roundsWon.toNat = game.roundsWon.toNat + outcomes.count .hit := by
  induction plays with
  | nil => rfl
  | @cons _ _ _ _ _ outcome later decides _ ih =>
      have split : outcome :: later = [outcome] ++ later := rfl
      rw [ih, decides.roundsWon_eq, split, List.count_append, Nat.add_assoc]

/-- Without a hit the target stays and every guess is counted. -/
theorem Plays.counted_of_missed (plays : game.Plays guesses outcomes final)
    (missed : .hit ∉ outcomes) :
    final.target = game.target ∧
      final.totalGuesses.toNat = game.totalGuesses.toNat + guesses.length := by
  induction plays with
  | nil => exact ⟨rfl, rfl⟩
  | cons decides _ ih =>
      rw [List.mem_cons, not_or] at missed
      rcases ih missed.2 with ⟨targetKept, counted⟩
      refine ⟨targetKept.trans (decides.target_of_miss (Ne.symm missed.1)), ?_⟩
      rw [counted, (decides.counted_of_miss (Ne.symm missed.1)).2, List.length_cons]
      omega

theorem withTarget_of_valid {range : TargetRange} (valid : range.validate = .ok ())
    (target : Int32) (draws : List Int32) :
    withTarget range target draws = .ok ⟨range, target, 0, 0, draws⟩ := by
  rw [withTarget, valid]
  rfl

/--
A game around any first target decides every guess of fewer than `2 ^ 64`, whoever makes them and
whatever is drawn. Each guess is told how the target of its moment relates to it, and one that
misses adds one to the count and changes nothing else. In the end the rounds won are the hits; the
target is the one drawn at the last hit and the count that of the guesses after it, or, without a
hit, the first target and the count of all guesses.
-/
theorem history_of_guesses {range : TargetRange} (valid : range.validate = .ok ())
    (target : Int32) (draws : List Int32) {guesses : List Int32}
    (few : guesses.length < UInt64.size) :
    ∃ game outcomes final, withTarget range target draws = .ok game ∧
      game.submitAll guesses = .ok (outcomes, final) ∧
      final.roundsWon.toNat = outcomes.count .hit ∧
      (.hit ∉ outcomes → final.target = target ∧ final.totalGuesses.toNat = guesses.length) ∧
      ∀ before guess after, guesses = before ++ guess :: after →
        ∃ earlier between outcome next later,
          game.submitAll before = .ok (earlier, between) ∧
          between.submit guess = .ok (outcome, next) ∧
          next.submitAll after = .ok (later, final) ∧
          outcomes = earlier ++ outcome :: later ∧
          (outcome = .higher ↔ guess < between.target) ∧
          (outcome = .lower ↔ between.target < guess) ∧
          (outcome = .hit ↔ guess = between.target) ∧
          (outcome ≠ .hit → next = { between with totalGuesses := between.totalGuesses + 1 } ∧
            next.totalGuesses.toNat = between.totalGuesses.toNat + 1) ∧
          (outcome = .hit → .hit ∉ later →
            final.target = (range.nextTarget between.target between.draws).1 ∧
              final.totalGuesses.toNat = after.length) := by
  have room : HasRoom ⟨range, target, 0, 0, draws⟩ guesses.length :=
    ⟨by simpa using few, by simpa using few⟩
  rcases submitAll_of_room room with ⟨outcomes, final, played⟩
  have plays := plays_of_submitAll played
  refine ⟨_, outcomes, final, withTarget_of_valid valid target draws, played, ?_, ?_, ?_⟩
  · simpa using plays.roundsWon_eq
  · intro missed
    simpa using plays.counted_of_missed missed
  · intro before guess after split
    rw [split] at played
    rcases submitAll_append_eq_ok played with
      ⟨earlier, between, told, playedBefore, playedRest, rfl⟩
    rcases submitAll_cons_eq_ok playedRest with
      ⟨outcome, next, later, decided, playedAfter, rfl⟩
    have decides := decides_of_submit decided
    have rangeKept := (plays_of_submitAll playedBefore).range_eq
    refine ⟨earlier, between, outcome, next, later, playedBefore, decided, playedAfter, rfl,
      ?_, ?_, ?_, decides.counted_of_miss, ?_⟩
    · rw [decides.outcome_eq]
      exact Outcome.compare_eq_higher_iff
    · rw [decides.outcome_eq]
      exact Outcome.compare_eq_lower_iff
    · rw [decides.outcome_eq]
      exact Outcome.compare_eq_hit_iff
    · rintro rfl missed
      rcases decides.renewed_of_hit with ⟨drawn, reset⟩
      rcases (plays_of_submitAll playedAfter).counted_of_missed missed with ⟨targetKept, counted⟩
      rw [rangeKept] at drawn
      exact ⟨targetKept.trans drawn, by rw [counted, reset, Nat.zero_add]⟩

/-- Two rounds are won, the second by the guess after the first, and a third is being played. -/
theorem history_of_two_rounds :
    TargetRange.default.validate = .ok () ∧
      ([10, 90, 50, 7, 5, 1] : List Int32).length < UInt64.size ∧
      ∃ game outcomes final, withTarget .default 50 [50, 7, 7, 3] = .ok game ∧
        game.submitAll [10, 90, 50, 7, 5, 1] = .ok (outcomes, final) ∧
        outcomes = [.higher, .lower, .hit, .hit, .lower, .higher] ∧
        final.roundsWon.toNat = 2 ∧ final.target = 3 ∧ final.totalGuesses.toNat = 2 := by
  have few : ([10, 90, 50, 7, 5, 1] : List Int32).length < UInt64.size := by decide
  rcases history_of_guesses (rfl : TargetRange.default.validate = .ok ()) 50 [50, 7, 7, 3] few with
    ⟨game, outcomes, final, started, played, rounds, -, each⟩
  rcases each [10, 90, 50] 7 [5, 1] rfl with
    ⟨earlier, between, outcome, next, later, playedBefore, decided, playedAfter, rfl, -, -, -, -,
      sinceHit⟩
  cases started
  cases playedBefore
  cases decided
  cases playedAfter
  rcases sinceHit rfl (by decide) with ⟨drawn, counted⟩
  exact ⟨rfl, few, _, _, _, rfl, played, rfl, rounds, drawn, counted⟩

end Game

end VirtualNet
