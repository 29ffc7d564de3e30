import Mathlib.Data.List.Chain
import VirtualNet.Proofs.Game.Rounds

/-!
# The targets of a game

Where the draws of a game come from its range, so does every target that follows a hit, and in a
range of two values or more it is another one than the target that was hit (`nextTarget_ne`). A
value that was hit therefore misses until the next hit, so of any number of submissions of one
value in a row at most one wins.

`Fair` says what a run of a game keeps to; `targets_rotate` says that games over valid ranges do.
-/

namespace VirtualNet

namespace TargetRange

variable {range : TargetRange} {value other previous : Int32} {draws : List Int32}

theorem validate_eq_ok_iff : range.validate = .ok () ↔ range.lower.toInt < range.upper.toInt := by
  rw [validate]
  split
  · rename_i empty
    rw [Int32.le_iff_toInt_le] at empty
    exact iff_of_false nofun (Int.not_lt.mpr empty)
  · rename_i nonempty
    rw [Int32.le_iff_toInt_le] at nonempty
    exact iff_of_true rfl (Int.not_le.mp nonempty)

theorem contains_iff : range.contains value = true ↔
    range.lower.toInt ≤ value.toInt ∧ value.toInt < range.upper.toInt := by
  simp only [contains, decide_eq_true_eq, Int32.le_iff_toInt_le, Int32.lt_iff_toInt_lt]

theorem contains_lower (valid : range.validate = .ok ()) : range.contains range.lower = true :=
  contains_iff.mpr ⟨Int.le_refl _, validate_eq_ok_iff.mp valid⟩

theorem eq_of_contains (single : range.size < 2) (contained : range.contains value = true)
    (contained' : range.contains other = true) : value = other := by
  rw [contains_iff] at contained contained'
  rw [size] at single
  apply Int32.toInt_inj.mp
  omega

theorem contains_leastOther (several : 2 ≤ range.size) :
    range.contains (range.leastOther previous) = true ∧ range.leastOther previous ≠ previous := by
  have lowerBound := range.lower.le_toInt
  have upperBound := range.upper.toInt_lt
  rw [size] at several
  have next : (range.lower + 1).toInt = range.lower.toInt + 1 := by
    rw [Int32.toInt_add]
    exact Int.bmod_eq_of_le (by simp; omega) (by simp; omega)
  rw [contains_iff, leastOther]
  split
  · rename_i same
    rw [← same, ne_eq, ← Int32.toInt_inj, next]
    omega
  · rename_i differs
    exact ⟨by omega, differs⟩

theorem contains_of_nextTarget {left : List Int32} (valid : range.validate = .ok ())
    (drawn : ∀ draw ∈ draws, range.contains draw = true)
    (next : range.nextTarget previous draws = (value, left)) :
    range.contains value = true ∧ ∀ draw ∈ left, range.contains draw = true := by
  fun_induction nextTarget range previous draws with
  | case1 =>
      cases next
      refine ⟨?_, nofun⟩
      split
      · exact contains_lower valid
      · rename_i several
        exact (contains_leastOther (Nat.le_of_not_lt several)).1
  | case2 draw rest taken =>
      cases next
      exact List.forall_mem_cons.mp drawn
  | case3 draw rest skipped ih => exact ih (List.forall_mem_cons.mp drawn).2 next

theorem nextTarget_ne (several : 2 ≤ range.size) (previous : Int32) (draws : List Int32) :
    (range.nextTarget previous draws).1 ≠ previous := by
  have notSingle : ¬range.size < 2 := Nat.not_lt.mpr several
  fun_induction nextTarget range previous draws with
  | case1 =>
      rw [if_neg notSingle]
      exact (contains_leastOther several).2
  | case2 draw rest taken => exact taken.resolve_left notSingle
  | case3 draw rest skipped ih => exact ih

/-- The first draw that differs from the target before is the next target. -/
theorem nextTarget_of_skipped {skipped rest : List Int32} {draw : Int32}
    (several : 2 ≤ range.size) (repeats : ∀ value ∈ skipped, value = previous)
    (differs : draw ≠ previous) :
    range.nextTarget previous (skipped ++ draw :: rest) = (draw, rest) := by
  induction skipped with
  | nil => rw [List.nil_append, nextTarget, if_pos (Or.inr differs)]
  | cons first later ih =>
      rw [List.forall_mem_cons] at repeats
      rw [List.cons_append, nextTarget, if_neg, ih repeats.2]
      rintro (single | differs')
      · exact Nat.not_lt.mpr several single
      · exact differs' repeats.1

end TargetRange

namespace Game

variable {game next final : Game} {guess : Int32} {outcome : Outcome}
  {guesses : List Int32} {outcomes : List Outcome}

/-- The game has a range to draw from, and its draws come from there. -/
structure Drawing (game : Game) : Prop where
  valid : game.range.validate = .ok ()
  drawn : ∀ draw ∈ game.draws, game.range.contains draw = true

theorem Decides.drawing (decides : game.Decides guess outcome next) (drawing : game.Drawing) :
    next.Drawing := by
  cases decides with
  | miss _ _ _ => exact ⟨drawing.valid, drawing.drawn⟩
  | hit _ drawn _ =>
      have contained := TargetRange.contains_of_nextTarget drawing.valid drawing.drawn drawn
      exact ⟨drawing.valid, contained.2⟩

theorem Decides.contains_target (decides : game.Decides guess outcome next)
    (drawing : game.Drawing)
    (drawnOrKept : outcome = .hit ∨ game.range.contains game.target = true) :
    next.range.contains next.target = true := by
  cases decides with
  | miss _ missed _ => exact drawnOrKept.resolve_left missed
  | hit _ drawn _ =>
      exact (TargetRange.contains_of_nextTarget drawing.valid drawing.drawn drawn).1

theorem Decides.target_ne (decides : game.Decides guess .hit next)
    (several : 2 ≤ game.range.size) : next.target ≠ game.target := by
  rw [decides.renewed_of_hit.1]
  exact TargetRange.nextTarget_ne several _ _

/-- The target is in the range after a hit, and it stays there. -/
theorem Plays.contains_target (plays : game.Plays guesses outcomes final) (drawing : game.Drawing)
    (drawnOrKept : .hit ∈ outcomes ∨ game.range.contains game.target = true) :
    game.range.contains final.target = true := by
  induction plays with
  | nil => exact drawnOrKept.resolve_left List.not_mem_nil
  | cons decides _ ih =>
      rw [← decides.range_eq]
      apply ih (decides.drawing drawing)
      rcases drawnOrKept with hit | kept
      · rcases List.mem_cons.mp hit with first | after
        · exact Or.inr (decides.contains_target drawing (Or.inl first.symm))
        · exact Or.inl after
      · exact Or.inr (decides.contains_target drawing (Or.inr kept))

/-- The values of the guesses that hit, in order. -/
def hits (guesses : List Int32) (outcomes : List Outcome) : List Int32 :=
  ((guesses.zip outcomes).filter fun entry => entry.2 = .hit).map Prod.fst

theorem hits_cons_of_missed (missed : outcome ≠ .hit) :
    hits (guess :: guesses) (outcome :: outcomes) = hits guesses outcomes := by
  simp only [hits, List.zip_cons_cons, List.filter_cons, missed, decide_false, Bool.false_eq_true,
    if_false]

/-- The first hit is on the target, and no two hits in a row are on the same value. -/
theorem Plays.isChain_hits (plays : game.Plays guesses outcomes final)
    (several : 2 ≤ game.range.size) :
    (∀ value ∈ (hits guesses outcomes).head?, value = game.target) ∧
      (hits guesses outcomes).IsChain (· ≠ ·) := by
  induction plays with
  | nil => exact ⟨nofun, .nil⟩
  | @cons game next _ guess rest outcome later decides _ ih =>
      rcases ih (decides.range_eq ▸ several) with ⟨first, chain⟩
      by_cases hit : outcome = .hit
      · subst hit
        have equal := Outcome.compare_eq_hit_iff.mp decides.outcome_eq.symm
        have shape : hits (guess :: rest) (.hit :: later) = guess :: hits rest later := rfl
        rw [shape]
        refine ⟨?_, chain.cons ?_⟩
        · intro value member
          cases member
          exact equal
        -- The hit after this one is on the target that this one brought up, which is another.
        · intro value member
          rw [first value member, equal]
          exact (decides.target_ne several).symm
      · rw [hits_cons_of_missed hit, ← decides.target_of_miss hit]
        exact ⟨first, chain⟩

theorem Plays.missed_of_others (plays : game.Plays guesses outcomes final)
    (others : ∀ guess ∈ guesses, guess ≠ game.target) : .hit ∉ outcomes := by
  induction plays with
  | nil => exact List.not_mem_nil
  | cons decides _ ih =>
      rw [List.forall_mem_cons] at others
      have missed := mt Outcome.compare_eq_hit_iff.mp others.1
      rw [← decides.outcome_eq] at missed
      rw [List.mem_cons, not_or]
      exact ⟨Ne.symm missed, ih (decides.target_of_miss missed ▸ others.2)⟩

theorem Plays.count_hit_of_same (plays : game.Plays guesses outcomes final)
    (several : 2 ≤ game.range.size) (some : guesses ≠ [])
    (same : ∀ guess ∈ guesses, guess = game.target) : outcomes.count .hit = 1 := by
  cases plays with
  | nil => contradiction
  | @cons _ next _ _ rest _ later decides plays =>
      rw [List.forall_mem_cons] at same
      -- The first guess hits, and the value is not the target after it.
      rcases decides.outcome_eq.trans (Outcome.compare_eq_hit_iff.mpr same.1) with rfl
      have others : ∀ guess ∈ rest, guess ≠ next.target := by
        intro guess member
        rw [same.2 guess member]
        exact (decides.target_ne several).symm
      rw [List.count_cons_self, List.count_eq_zero.mpr (plays.missed_of_others others)]

/-- What every run of a game keeps to, as far as its counters have room for it. -/
structure Fair (game : Game) : Prop where
  decided : ∀ guesses, guesses.length < UInt64.size →
    ∃ outcomes final, game.submitAll guesses = .ok (outcomes, final)
  /-- From the first hit on the target is in the range. -/
  inRange : ∀ guesses outcomes final, game.submitAll guesses = .ok (outcomes, final) →
    .hit ∈ outcomes → game.range.contains final.target = true
  /-- No two hits in a row are on the same value. -/
  changing : 2 ≤ game.range.size → ∀ guesses outcomes final,
    game.submitAll guesses = .ok (outcomes, final) → (hits guesses outcomes).IsChain (· ≠ ·)
  /-- Of submissions of one value in a row one hits if it was the target, and none otherwise. -/
  oneWinner : 2 ≤ game.range.size → ∀ guesses outcomes between,
    game.submitAll guesses = .ok (outcomes, between) →
      ∀ value same told final, (∀ guess ∈ same, guess = value) →
        between.submitAll same = .ok (told, final) →
          (between.target = value → same ≠ [] → told.count .hit = 1) ∧
            (between.target ≠ value → .hit ∉ told)

theorem Drawing.fair (drawing : game.Drawing) (guessesZero : game.totalGuesses = 0)
    (roundsZero : game.roundsWon = 0) : game.Fair where
  decided guesses few := by
    apply submitAll_of_room
    exact ⟨by simpa [guessesZero] using few, by simpa [roundsZero] using few⟩
  inRange guesses outcomes final played hit :=
    (plays_of_submitAll played).contains_target drawing (Or.inl hit)
  changing several guesses outcomes final played :=
    ((plays_of_submitAll played).isChain_hits several).2
  oneWinner several guesses outcomes between played value same told final equal continued := by
    have plays := plays_of_submitAll continued
    constructor
    · rintro rfl some
      rw [← (plays_of_submitAll played).range_eq] at several
      exact plays.count_hit_of_same several some equal
    · intro other
      apply plays.missed_of_others
      intro guess member
      rw [equal guess member]
      exact other.symm

theorem create_of_valid {range : TargetRange} {draws : List Int32}
    (valid : range.validate = .ok ()) (drawn : ∀ draw ∈ draws, range.contains draw = true) :
    ∃ first rest, create range draws = .ok ⟨range, first, 0, 0, rest⟩ ∧
      range.contains first = true ∧ ∀ draw ∈ rest, range.contains draw = true := by
  cases draws with
  | nil => exact ⟨_, _, withTarget_of_valid valid _ _, TargetRange.contains_lower valid, nofun⟩
  | cons first rest =>
      exact ⟨_, _, withTarget_of_valid valid _ _, List.forall_mem_cons.mp drawn⟩

/--
A target that is drawn is in the range. It is the first draw that differs from the target before
where the range has two values or more, and so has another one, and the only value of the range
otherwise. So a game around any first target is fair, and a game whose first target is drawn too
has its target in the range from the start.
-/
theorem targets_rotate {range : TargetRange} (valid : range.validate = .ok ())
    {draws : List Int32} (drawn : ∀ draw ∈ draws, range.contains draw = true) :
    (∀ previous, range.contains (range.nextTarget previous draws).1 = true ∧
      (2 ≤ range.size →
        (∃ value, range.contains value = true ∧ value ≠ previous) ∧
        ∀ skipped draw rest, draws = skipped ++ draw :: rest →
          (∀ value ∈ skipped, value = previous) → draw ≠ previous →
            range.nextTarget previous draws = (draw, rest)) ∧
      (range.size < 2 → ∀ value, range.contains value = true ↔
        value = (range.nextTarget previous draws).1)) ∧
    (∀ target, ∃ game, withTarget range target draws = .ok game ∧ game.Fair) ∧
    ∃ game, create range draws = .ok game ∧ game.Fair ∧
      ∀ guesses outcomes final, game.submitAll guesses = .ok (outcomes, final) →
        range.contains final.target = true := by
  refine ⟨?_, ?_, ?_⟩
  · intro previous
    have contained : range.contains (range.nextTarget previous draws).1 = true :=
      (TargetRange.contains_of_nextTarget valid drawn rfl).1
    refine ⟨contained, ?_, ?_⟩
    · intro several
      refine ⟨⟨_, TargetRange.contains_leastOther several⟩, ?_⟩
      rintro skipped draw rest rfl repeats differs
      exact TargetRange.nextTarget_of_skipped several repeats differs
    · intro single value
      constructor
      · intro member
        exact TargetRange.eq_of_contains single member contained
      · rintro rfl
        exact contained
  · intro target
    have drawing : Drawing ⟨range, target, 0, 0, draws⟩ := ⟨valid, drawn⟩
    exact ⟨_, withTarget_of_valid valid target draws, drawing.fair rfl rfl⟩
  · rcases create_of_valid valid drawn with ⟨first, rest, created, contained, drawnRest⟩
    have drawing : Drawing ⟨range, first, 0, 0, rest⟩ := ⟨valid, drawnRest⟩
    refine ⟨_, created, drawing.fair rfl rfl, ?_⟩
    intro guesses outcomes final played
    exact (plays_of_submitAll played).contains_target drawing (Or.inr contained)

/-- The widest range, around a first target outside it that three players guess. -/
theorem targets_rotate_over_widest_range :
    let range : TargetRange := ⟨-2147483648, 2147483647⟩
    let draws : List Int32 := [5, 5, -2147483648, 9]
    range.validate = .ok () ∧ (∀ draw ∈ draws, range.contains draw = true) ∧
      range.nextTarget 5 draws = (-2147483648, [9]) ∧ range.contains 2147483647 = false ∧
      ∃ game told final, withTarget range 2147483647 draws = .ok game ∧
        game.submitAll [2147483647, 2147483647, 2147483647] = .ok (told, final) ∧
        told.count .hit = 1 ∧ range.contains final.target = true := by
  intro range draws
  have valid : range.validate = .ok () := rfl
  have drawn : ∀ draw ∈ draws, range.contains draw = true := List.all_eq_true.mp rfl
  have several : 2 ≤ range.size := by decide
  rcases targets_rotate valid drawn with ⟨next, around, -⟩
  have skips := ((next 5).2.1 several).2 [5, 5] (-2147483648) [9] rfl (by simp) (by decide)
  rcases around 2147483647 with ⟨game, started, fair⟩
  cases started
  rcases fair.decided [2147483647, 2147483647, 2147483647] (by decide) with ⟨told, final, played⟩
  have oneHit := (fair.oneWinner several [] [] _ rfl 2147483647 _ told final (by simp) played).1
    rfl nofun
  have hit : .hit ∈ told := List.count_pos_iff.mp (oneHit ▸ Nat.one_pos)
  exact ⟨valid, drawn, skips, rfl, _, told, final, rfl, played, oneHit,
    fair.inRange _ told final played hit⟩

end Game

end VirtualNet
