import Mathlib.Algebra.Ring.Int.Defs
import RoguePilot.Play.Rehearsal
import RoguePilot.Proofs.Game.Score
import RoguePilot.Proofs.Play.Turn

/-!
# The score of an episode

The score is what the steps since the start were rewarded with, and nothing else. While the game
goes on, the rewards add up to what the snapshot is worth over the one the episode was started with;
the step that ends the game is rewarded for the way it ends alone. The reward for a game that has
started is never part of the score, because an episode is played only once its game has started.
-/

namespace RoguePilot.Episode

open Dialogue

/-! ## Steps after a start -/

/-- Takes a step for each action in order: the episode after them, and their outcomes. -/
def stepAll (polls : Nat) (episode : Episode) : List (List UInt8) →
    Play.Program (Episode × List Outcome)
  | [] => pure (episode, [])
  | action :: actions => do
    let (after, outcome) ← episode.step polls action
    let (last, outcomes) ← after.stepAll polls actions
    return (last, outcome :: outcomes)

/-- An episode that was started with the given snapshot. -/
structure ScoredSince (start : Snapshot) (episode : Episode) : Prop where
  /-- The game has started. -/
  started : episode.snapshot.started = true
  /-- A game that is played is not over. -/
  goesOn : episode.phase = .playing → episode.snapshot.isFinished = false
  /-- The orb is never lost. -/
  orb_kept : start.hasOrb = true → episode.snapshot.hasOrb = true
  /-- Until the game is over, the score is what the snapshot is worth. -/
  score_eq : episode.snapshot.isFinished = false →
    episode.tally.score = Score.worth start episode.snapshot

/-- What a step adds to the score of an episode, and how it is rewarded if it ends the game. -/
structure Rewards (before : Episode) (result : Episode × Outcome) : Prop where
  /-- The reward is added to the score. -/
  score_eq : result.1.tally.score = before.tally.score + result.2.reward
  /-- A step that ends the game is rewarded for the way it ends. -/
  settles : before.snapshot.isFinished = false → result.1.snapshot.isFinished = true →
    Score.Settles result.1.snapshot result.2.reward

/-- Advancing by a frame moves the snapshot of a started game and leaves the score to the step. -/
structure AdvancesScore (before : Episode) (result : Episode × Int) : Prop where
  /-- The snapshot moves. -/
  moves : Score.Moves before.snapshot result.1.snapshot result.2
  /-- The reward is not added yet. -/
  score_eq : result.1.tally.score = before.tally.score

theorem Advances.score {before : Episode} {result : Episode × Int}
    (started : before.snapshot.started = true) (goesOn : before.snapshot.isFinished = false)
    (advances : Advances before result) : AdvancesScore before result := by
  have same := Score.moves_refl started goesOn
  cases advances with
  | silent reads session_eq =>
      rw [← reads.snapshot_eq] at same
      refine ⟨?_, reads.score_eq⟩
      rw [← reads.snapshot_eq]
      exact same
  | @evaluated read reads frame =>
      rw [← reads.snapshot_eq] at started goesOn same
      unfold takeSnapshot
      split
      · refine ⟨?_, reads.score_eq⟩
        rw [← reads.snapshot_eq]
        exact same
      · next session present =>
        refine ⟨?_, reads.score_eq⟩
        rw [← reads.snapshot_eq]
        exact Score.transition_moves started goesOn session.screen frame.text

theorem isFinished_of_playing {episode : Episode}
    (playing : episode.concludeStep.phase = .playing) : episode.snapshot.isFinished = false := by
  simp only [concludeStep] at playing
  split at playing
  · contradiction
  · split at playing
    · contradiction
    · next goesOn =>
      simp only [endsAfterStep, isOver, Bool.or_eq_true, not_or, Bool.not_eq_true] at goesOn
      exact goesOn.1.2

theorem ScoredSince.step {start : Snapshot} {before : Episode} {result : Episode × Outcome}
    (scored : ScoredSince start before) (steps : Steps before result) :
    ScoredSince start result.1 ∧ Rewards before result := by
  cases steps with
  | idle ended =>
      refine ⟨scored, (Int.add_zero _).symm, ?_⟩
      intro goesOn finished
      rw [goesOn] at finished
      contradiction
  | @acted after reward able playing advances =>
      have goesOn := scored.goesOn playing
      -- Counting the step changes neither the snapshot nor the score.
      have counted : AdvancesScore before.countStep (after, reward) :=
        advances.score scored.started goesOn
      have moves : Score.Moves before.snapshot after.snapshot reward := counted.moves
      have score_add : (before.settleStep after reward).tally.score = before.tally.score + reward :=
        congrArg (· + reward) counted.score_eq
      constructor
      · refine ⟨moves.started, isFinished_of_playing, moves.orb_kept ∘ scored.orb_kept, ?_⟩
        intro still
        change (before.settleStep after reward).tally.score = Score.worth start after.snapshot
        rw [score_add, scored.score_eq goesOn, moves.worth_eq still]
        exact Score.worth_add_worth scored.orb_kept moves.orb_kept
      · exact ⟨score_add, fun _ => moves.settles⟩

theorem stepAll_ensures {start : Snapshot} (polls : Nat) (actions : List (List UInt8))
    {episode : Episode} (scored : ScoredSince start episode) :
    (stepAll polls episode actions).Ensures fun result =>
      ScoredSince start result.1 ∧
        result.1.tally.score = episode.tally.score + (result.2.map Outcome.reward).sum := by
  induction actions generalizing episode with
  | nil => exact ⟨scored, (Int.add_zero _).symm⟩
  | cons action actions induction =>
      rw [stepAll, ensures_bind]
      refine (step_ensures polls episode action).mono ?_
      rintro ⟨after, outcome⟩ steps
      obtain ⟨after_scored, rewards⟩ := scored.step steps
      rw [ensures_bind]
      refine (induction after_scored).mono ?_
      rintro ⟨last, outcomes⟩ ⟨last_scored, sum_eq⟩
      refine ⟨last_scored, ?_⟩
      rw [List.map_cons, List.sum_cons, ← Int.add_assoc, ← rewards.score_eq]
      exact sum_eq

theorem judge_playing {episode : Episode} {begun : Bool}
    (playing : (episode.judge begun).phase = .playing) :
    begun = true ∧ episode.snapshot.isFinished = false := by
  simp only [judge, settledPhase] at playing
  split at playing
  · contradiction
  · next able =>
    split at playing
    · contradiction
    · next goesOn =>
      simp only [Bool.or_eq_true, not_or, Bool.not_eq_true, Bool.not_eq_false'] at able goesOn
      exact ⟨able.2, goesOn⟩

/-- An episode that is played after its start has scored nothing yet. -/
theorem reset_scored (polls : Nat) (episode : Episode) :
    (episode.reset polls).Ensures fun result => result.1.phase = .playing →
      ScoredSince result.1.snapshot result.1 ∧ result.1.tally.score = 0 := by
  have keeps : AdvancingKeeps fun episode => episode.tally.score = 0 := by
    intro before result unscored advances
    cases advances with
    | silent reads session_eq => exact reads.score_eq.trans unscored
    | evaluated reads frame =>
        rw [tally_takeSnapshot, reads.score_eq]
        exact unscored
  refine (reset_ensures keeps (fun _ => rfl) polls episode).mono ?_
  rintro ⟨after, outcome⟩ restarts playing
  cases restarts with
  | refused session_eq phase_eq =>
      rw [phase_eq] at playing
      contradiction
  | @judged waited begun unscored seen =>
      obtain ⟨rfl, goesOn⟩ := judge_playing playing
      have started := seen rfl
      simp only [hasBegun, Bool.and_eq_true] at started
      refine ⟨⟨started.2, fun _ => goesOn, id, fun _ => ?_⟩, unscored⟩
      exact unscored.trans (Score.worth_self _).symm

/-- An episode that was started, took steps, and took one more. -/
structure Course where
  /-- The episode once it was started. -/
  start : Episode
  /-- The episode before its last step. -/
  middle : Episode
  /-- The outcomes of the steps before the last one. -/
  outcomes : List Outcome
  /-- The episode after its last step. -/
  last : Episode
  /-- The outcome of its last step. -/
  outcome : Outcome

/-- Starts the next game, takes a step for each action, and takes one more. -/
def follow (polls : Nat) (episode : Episode) (actions : List (List UInt8)) (action : List UInt8) :
    Play.Program Course := do
  let (start, _) ← episode.reset polls
  let (middle, outcomes) ← start.stepAll polls actions
  let (last, outcome) ← middle.step polls action
  return { start, middle, outcomes, last, outcome }

/--
Whatever the outside answers, when an episode has been started, is played and takes steps, its score
is the sum of their rewards. Until the game is over, this is a hundred for each level and one for
each percent gained since the start, and the reward for the orb if it was picked up since. A step
that ends the game adds the reward for an escape with the orb, its loss for one without, and nothing
for death.
-/
theorem score_telescopes (polls : Nat) (episode : Episode) (actions : List (List UInt8))
    (action : List UInt8) :
    (follow polls episode actions action).Ensures fun course => course.start.phase = .playing →
      course.middle.tally.score = (course.outcomes.map Outcome.reward).sum ∧
      (course.middle.snapshot.isFinished = false →
        course.middle.tally.score =
          100 * (course.middle.snapshot.experienceLevel - course.start.snapshot.experienceLevel) +
            (course.middle.snapshot.percentToNextLevel -
              course.start.snapshot.percentToNextLevel) +
            (if course.middle.snapshot.hasOrb && !course.start.snapshot.hasOrb then 10000
              else 0)) ∧
      (course.middle.snapshot.isFinished = false → course.last.snapshot.isFinished = true →
        course.last.tally.score = course.middle.tally.score + course.outcome.reward ∧
        (course.last.snapshot.won = true → course.outcome.reward = 1000000) ∧
        (course.last.snapshot.escapedWithoutOrb = true → course.outcome.reward = -1000000) ∧
        (course.last.snapshot.died = true → course.outcome.reward = 0)) := by
  rw [follow, ensures_bind]
  refine (reset_scored polls episode).mono ?_
  rintro ⟨start, outcome⟩ scored
  rw [ensures_bind]
  by_cases playing : start.phase = .playing
  · obtain ⟨start_scored, unscored⟩ := scored playing
    refine (stepAll_ensures polls actions start_scored).mono ?_
    rintro ⟨middle, outcomes⟩ ⟨middle_scored, sum_eq⟩
    rw [ensures_bind]
    refine (step_ensures polls middle action).mono ?_
    rintro ⟨last, outcome⟩ steps -
    have rewards := (middle_scored.step steps).2
    refine ⟨?_, ?_, ?_⟩
    · rw [sum_eq, unscored, Int.zero_add]
    · intro goesOn
      rw [middle_scored.score_eq goesOn, Score.worth, Score.experienceGain, Int.mul_comm]
      rfl
    · intro goesOn finished
      have settles := rewards.settles goesOn finished
      exact ⟨rewards.score_eq, settles.won, settles.escapedWithoutOrb, settles.died⟩
  · refine .of_forall ?_
    rintro ⟨middle, outcomes⟩
    rw [ensures_bind]
    refine .of_forall ?_
    rintro ⟨last, outcome⟩ played
    exact absurd played playing

/-- A game in which the first move gains a level and five percent, and any other is deadly. -/
def deadlyGame : Play.Rehearsal.Script :=
  let shows (text : String) : Play.Rehearsal.Entry := some (Keys.ofText text)
  { pending :=
      [shows "\x1b[2HFound a staircase leading out of the dungeon",
        shows "\x1b[1;38HHealth:9/9 Magic:0/0 AC:1 Str:1 XL:1 Next:0"]
    rules :=
      [⟨some (Keys.ofText "o"), [shows "\x1b[1;70HXL:2 Next:5"], none⟩,
        ⟨none, [shows "You die"], none⟩]
    refusals := []
    running := true
    typings := 0 }

/-- Played until death, the deadly game scores what its first move gains and nothing for death. -/
theorem score_telescopes_until_death :
    ∃ config course,
      (run Play.Rehearsal.host (follow 3 (create config) [Keys.ofText "o"] Keys.space)
        (.of [some deadlyGame])).1 = some course ∧
      course.start.phase = .playing ∧ (course.outcomes.map Outcome.reward).sum = 105 ∧
      course.last.snapshot.died = true ∧ course.outcome.reward = 0 := by
  have seen :
      ((run Play.Rehearsal.host
        (follow 3 (create { terminal := { rows := 2 }, timing := { readTimeout := 0 } })
          [Keys.ofText "o"] Keys.space) (.of [some deadlyGame])).1.map fun course =>
        (course.start.phase, course.middle.tally.score, course.middle.snapshot.isFinished,
          course.last.snapshot.died)) = some (.playing, 105, false, true) := by
    decide +kernel
  obtain ⟨course, played, seen_eq⟩ := Option.map_eq_some_iff.mp seen
  simp only [Prod.mk.injEq] at seen_eq
  obtain ⟨playing, score_eq, goesOn, died⟩ := seen_eq
  have finished : course.last.snapshot.isFinished = true := by
    simp only [Snapshot.isFinished, died, Bool.or_true, Bool.true_or]
  obtain ⟨sum_eq, -, settles⟩ := (score_telescopes 3 _ _ _).of_run played playing
  exact
    ⟨_, course, played, playing, sum_eq ▸ score_eq, died, (settles goesOn finished).2.2.2 died⟩

end RoguePilot.Episode
