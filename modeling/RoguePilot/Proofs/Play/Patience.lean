import RoguePilot.Proofs.Play.CleanSlate

/-!
# Patience with a stuck game

A step after which the time in the game is what it was before leaves the game still. An episode counts
the steps that have left its game still without a break, and gives the game up once there are as many as
its limit. As it then takes no more steps, the count never goes beyond the limit.
-/

namespace RoguePilot.Episode

open Dialogue

/-! ## Steps in a row -/

/-- A step that an episode was asked to take. -/
structure Turn where
  /-- The episode before it. -/
  before : Episode
  /-- The keys it was to type. -/
  action : List UInt8
  /-- The episode after it. -/
  after : Episode
  /-- What it yielded besides. -/
  outcome : Outcome

/-- Takes a step for each action: the steps, and the episode after them. -/
def takeTurns (polls : Nat) (episode : Episode) : List (List UInt8) →
    Play.Program (List Turn × Episode)
  | [] => pure ([], episode)
  | action :: actions => do
    let (after, outcome) ← episode.step polls action
    let (turns, last) ← after.takeTurns polls actions
    return (⟨episode, action, after, outcome⟩ :: turns, last)

/-- Starts the next game and takes a step for each action. -/
def startTurns (polls : Nat) (episode : Episode) (actions : List (List UInt8)) :
    Play.Program (List Turn × Episode) := do
  let (start, _) ← episode.reset polls
  start.takeTurns polls actions

/-! ## Still games -/

/-- The time in the game is what it was before the step. -/
def Turn.isStill (turn : Turn) : Bool :=
  turn.after.snapshot.gameTime = turn.before.snapshot.gameTime

/-- The number of the latest steps that left the game still without a break. -/
def stillness (turns : List Turn) : Nat :=
  (turns.reverse.takeWhile Turn.isStill).length

@[simp] theorem stillness_nil : stillness [] = 0 := rfl

theorem stillness_concat (turns : List Turn) (turn : Turn) :
    stillness (turns ++ [turn]) = if turn.isStill then stillness turns + 1 else 0 := by
  rw [stillness, List.reverse_concat, List.takeWhile_cons]
  split <;> rfl

/-! ## One step -/

theorem Advances.stuckSteps_eq {before : Episode} {result : Episode × Int}
    (advances : Advances before result) : result.1.stuckSteps = before.stuckSteps := by
  cases advances with
  | silent reads session_eq => exact (congrArg Episode.stuckSteps reads.beside_eq :)
  | @evaluated after reads frame =>
      have kept : (after.takeSnapshot frame).1.stuckSteps = after.stuckSteps := by
        unfold takeSnapshot
        split <;> rfl
      exact kept.trans (congrArg Episode.stuckSteps reads.beside_eq :)

/-- What a step of a game that is played makes of the count, and when it is the last one. -/
structure Counts (before : Episode) (result : Episode × Outcome) : Prop where
  /-- The limit stays what it is. -/
  timing_eq : result.1.timing = before.timing
  /-- The count goes on while the game is still. -/
  stuckSteps_eq : result.1.stuckSteps =
    if result.1.snapshot.gameTime = before.snapshot.gameTime then before.stuckSteps + 1 else 0
  /-- The step is the last if typing has failed, the game is over, or the limit is reached. -/
  done_iff : result.2.done = true ↔
    result.1.failed = true ∨ result.1.snapshot.isFinished = true ∨
      before.timing.stuckStepLimit ≤ result.1.stuckSteps
  /-- After the last step the game is not played any more. -/
  goesOn : result.1.phase = .playing → result.2.done = false

theorem Steps.counts {before : Episode} {result : Episode × Outcome} (able : before.failed = false)
    (playing : before.phase = .playing) (steps : Steps before result) : Counts before result := by
  cases steps with
  | idle ended =>
      rcases ended with failed | ended
      · rw [able] at failed
        contradiction
      · exact absurd playing ended
  | @acted advanced reward _ _ advances =>
      have timing_eq : advanced.timing = before.timing :=
        congrArg (fun settings => settings.2.1) advances.settings_eq
      have count_eq : advanced.stuckSteps = before.stuckSteps := advances.stuckSteps_eq
      constructor
      · exact timing_eq
      · rw [← count_eq]
        rfl
      · rw [← timing_eq, endsAfterStep, isOver, Bool.or_eq_true, Bool.or_eq_true, or_assoc,
          decide_eq_true_eq]
        rfl
      · intro still
        simp only [concludeStep] at still
        split at still
        · contradiction
        · split at still
          · contradiction
          · next goesOn => exact Bool.eq_false_iff.mpr goesOn

theorem Steps.eq_of_not_playing {before : Episode} {result : Episode × Outcome}
    (ended : before.phase ≠ .playing) (steps : Steps before result) :
    result = (before, ⟨0, true⟩) := by
  cases steps with
  | idle ended => rfl
  | acted able playing advances => exact absurd playing ended

/-! ## Steps since the start -/

/-- Where an episode stands after the steps since its start. -/
structure Waits (limit : Nat) (turns : List Turn) (episode : Episode) : Prop where
  /-- The limit is the configured one. -/
  limit_eq : episode.timing.stuckStepLimit = limit
  /-- The count is within the limit, or is that of a single step. -/
  stuckSteps_le : episode.stuckSteps ≤ max limit 1
  /-- A game that is played takes keys. -/
  able : episode.phase = .playing → episode.failed = false
  /-- A game that is played was played all the time. -/
  played : episode.phase = .playing →
    ∀ turn ∈ turns, turn.before.phase = .playing ∧ turn.outcome.done = false
  /-- While the game is played, the count is that of its latest still steps. -/
  stuckSteps_eq : episode.phase = .playing → episode.stuckSteps = stillness turns
  /-- While the game is played, the limit was never reached. -/
  stillness_lt : episode.phase = .playing →
    ∀ first, first <+: turns → first ≠ [] → stillness first < limit

/-- What a step in a game that is played counts, and when it gives the game up, by the steps before it. -/
structure GivesUp (limit : Nat) (earlier : List Turn) (turn : Turn) : Prop where
  /-- The game was played at every step before, and none was the last. -/
  played : ∀ previous ∈ earlier, previous.before.phase = .playing ∧ previous.outcome.done = false
  /-- There is room for the step in the count. -/
  room : turn.before.stuckSteps + 1 ≤ max limit 1
  /-- The count is that of the latest still steps. -/
  stuckSteps_eq : turn.after.stuckSteps = stillness (earlier ++ [turn])
  /-- The step is the last just when typing has failed, the game is over, or the limit is reached. -/
  done_iff : turn.outcome.done = true ↔
    turn.after.failed = true ∨ turn.after.snapshot.isFinished = true ∨
      limit ≤ stillness (earlier ++ [turn])
  /-- The limit was not reached before. -/
  stillness_lt : ∀ first, first <+: earlier → first ≠ [] → stillness first < limit

variable {limit : Nat} {earlier : List Turn} {turn : Turn}

theorem Waits.givesUp (waits : Waits limit earlier turn.before) (playing : turn.before.phase = .playing)
    (counts : Counts turn.before (turn.after, turn.outcome)) : GivesUp limit earlier turn := by
  have count_eq := waits.stuckSteps_eq playing
  have stuckSteps_eq : turn.after.stuckSteps = stillness (earlier ++ [turn]) := by
    rw [counts.stuckSteps_eq, stillness_concat, count_eq]
    simp only [Turn.isStill, decide_eq_true_eq]
  refine ⟨waits.played playing, ?_, stuckSteps_eq, ?_, waits.stillness_lt playing⟩
  · rw [count_eq]
    by_cases first : earlier = []
    · subst first
      exact Nat.le_max_right _ _
    · exact Nat.le_trans (waits.stillness_lt playing earlier List.prefix_rfl first)
        (Nat.le_max_left _ _)
  · rw [← stuckSteps_eq, ← waits.limit_eq]
    exact counts.done_iff

theorem GivesUp.stuckSteps_le (givesUp : GivesUp limit earlier turn)
    (counts : Counts turn.before (turn.after, turn.outcome)) :
    turn.after.stuckSteps ≤ max limit 1 := by
  rw [counts.stuckSteps_eq]
  split
  · exact givesUp.room
  · exact Nat.zero_le _

/-- A game that goes on after a step waits as it did before. -/
theorem Waits.played_on (waits : Waits limit earlier turn.before)
    (playing : turn.before.phase = .playing)
    (counts : Counts turn.before (turn.after, turn.outcome)) :
    Waits limit (earlier ++ [turn]) turn.after := by
  have givesUp := waits.givesUp playing counts
  have goesOn (still : turn.after.phase = .playing) : turn.after.failed = false ∧
      stillness (earlier ++ [turn]) < limit := by
    have ongoing := counts.goesOn still
    rw [← Bool.not_eq_true, givesUp.done_iff, not_or, not_or, Bool.not_eq_true, Nat.not_le] at ongoing
    exact ⟨ongoing.1, ongoing.2.2⟩
  constructor
  · rw [counts.timing_eq]
    exact waits.limit_eq
  · exact givesUp.stuckSteps_le counts
  · exact fun still => (goesOn still).1
  · intro still
    exact List.forall_mem_append.mpr
      ⟨givesUp.played, List.forall_mem_singleton.mpr ⟨playing, counts.goesOn still⟩⟩
  · exact fun _ => givesUp.stuckSteps_eq
  · intro still first isPrefix some
    rcases List.prefix_concat_iff.mp isPrefix with rfl | before
    · exact (goesOn still).2
    · exact givesUp.stillness_lt first before some

/-- A game that is not played waits for nothing. -/
theorem Waits.idle (waits : Waits limit earlier turn.before) (ended : turn.before.phase ≠ .playing)
    (after_eq : turn.after = turn.before) : Waits limit (earlier ++ [turn]) turn.after := by
  rw [after_eq]
  constructor
  · exact waits.limit_eq
  · exact waits.stuckSteps_le
  all_goals exact fun playing => absurd playing ended

theorem Waits.step (waits : Waits limit earlier turn.before)
    (steps : Steps turn.before (turn.after, turn.outcome)) :
    Waits limit (earlier ++ [turn]) turn.after ∧
      (turn.before.phase = .playing → GivesUp limit earlier turn) := by
  by_cases playing : turn.before.phase = .playing
  · have counts := steps.counts (waits.able playing) playing
    exact ⟨waits.played_on playing counts, fun _ => waits.givesUp playing counts⟩
  · have after_eq : turn.after = turn.before :=
      congrArg Prod.fst (steps.eq_of_not_playing playing)
    exact ⟨waits.idle playing after_eq, fun still => absurd still playing⟩

/-! ## Any steps -/

/-- A game that is played once it was judged has not refused keys. -/
theorem works_judge {waited : Episode} {begun : Bool}
    (playing : (waited.judge begun).phase = .playing) : (waited.judge begun).failed = false := by
  refine Bool.eq_false_iff.mpr fun failed => ?_
  have phase_eq : (waited.judge begun).phase = .failed := if_pos failed
  rw [phase_eq] at playing
  contradiction

/-- A game that was just started has kept nobody waiting. -/
theorem reset_waits (polls : Nat) (episode : Episode) :
    (episode.reset polls).Ensures fun result =>
      Waits episode.timing.stuckStepLimit [] result.1 := by
  have set := call_settings polls episode .reset
  rw [call, ensures_bind] at set
  have fresh : (episode.reset polls).Ensures fun result =>
      result.1.stuckSteps = 0 ∧ (result.1.phase = .playing → result.1.failed = false) := by
    have keeps : AdvancingKeeps fun after => after.stuckSteps = 0 :=
      fun _ _ none_stuck advances => advances.stuckSteps_eq.trans none_stuck
    refine reset_ensures_of_judge keeps polls episode ⟨rfl, fun playing => ?_⟩ rfl ?_
    · contradiction
    · intro waited begun none_stuck _
      exact ⟨none_stuck, works_judge⟩
  refine (fresh.and set).mono ?_
  rintro ⟨start, ended⟩ ⟨⟨none_stuck, able⟩, same⟩
  constructor
  · exact congrArg (fun settings => settings.2.1.stuckStepLimit) same
  · rw [none_stuck]
    exact Nat.zero_le _
  · exact able
  · exact fun _ => List.forall_mem_nil _
  · exact fun _ => none_stuck
  · exact fun _ first isPrefix some => absurd (List.prefix_nil.mp isPrefix) some

theorem takeTurns_waits (polls : Nat) (actions : List (List UInt8)) {episode : Episode}
    (waits : Waits limit earlier episode) :
    (takeTurns polls episode actions).Ensures fun result =>
      ∀ first turn later, result.1 = first ++ turn :: later →
        turn.after.stuckSteps ≤ max limit 1 ∧
          (turn.before.phase = .playing → GivesUp limit (earlier ++ first) turn) := by
  induction actions generalizing earlier episode with
  | nil =>
      intro first turn later split
      simp at split
  | cons action actions induction =>
      -- The step joins the earlier ones, which the hypothesis of the induction then speaks of.
      rw [takeTurns, ensures_bind]
      refine (step_ensures polls episode action).mono ?_
      rintro ⟨after, outcome⟩ steps
      obtain ⟨still, givesUp⟩ :=
        @Waits.step limit earlier ⟨episode, action, after, outcome⟩ waits steps
      rw [ensures_bind]
      refine (induction still).mono ?_
      rintro ⟨turns, last⟩ rest first turn later split
      cases first with
      | nil =>
          obtain ⟨rfl, -⟩ := List.cons.inj split
          rw [List.append_nil]
          exact ⟨still.stuckSteps_le, givesUp⟩
      | cons head first =>
          obtain ⟨rfl, rest_eq⟩ := List.cons.inj split
          rw [List.append_cons]
          exact rest first turn later rest_eq

/-- With a limit of none the first step is the only one. -/
theorem GivesUp.eq_nil_of_zero (givesUp : GivesUp 0 earlier turn) : earlier = [] :=
  Classical.byContradiction fun some =>
    Nat.not_lt_zero _ (givesUp.stillness_lt earlier List.prefix_rfl some)

/-- A game that could go on is given up just when the limit is reached, and that for the first time. -/
theorem GivesUp.done_iff_eq (givesUp : GivesUp limit earlier turn) (positive : 0 < limit)
    (counted : turn.after.stuckSteps ≤ max limit 1) (able : turn.after.failed = false)
    (goesOn : turn.after.snapshot.isFinished = false) :
    (turn.outcome.done = true ↔ stillness (earlier ++ [turn]) = limit) ∧
      ∀ first, first <+: earlier → stillness first < limit := by
  constructor
  · have within : stillness (earlier ++ [turn]) ≤ limit := by
      rw [← givesUp.stuckSteps_eq]
      exact Nat.le_trans counted (Nat.max_le.mpr ⟨Nat.le_refl _, positive⟩)
    rw [givesUp.done_iff, able, goesOn]
    simp only [Bool.false_eq_true, false_or]
    omega
  · intro first isPrefix
    by_cases some : first = []
    · rw [some]
      exact positive
    · exact givesUp.stillness_lt first isPrefix some

/--
Whatever the outside answers, after every step that an episode takes in a game since its start, its count is
that of the latest steps that left the game still. The step is the last one just when typing has failed, the
game is over, or the count has reached the limit; so a game that could go on is given up exactly when the
limit is reached for the first time, and with a limit of none at the first step. The count never goes beyond
the limit, except to one, so that there is always room for the next step in a word.
-/
theorem stuck_game_given_up (polls : Nat) (episode : Episode) (actions : List (List UInt8)) :
    (startTurns polls episode actions).Ensures fun result =>
      ∀ earlier turn later, result.1 = earlier ++ turn :: later →
        turn.after.stuckSteps ≤ max episode.timing.stuckStepLimit 1 ∧
        (turn.before.phase = .playing →
          (∀ previous ∈ earlier,
            previous.before.phase = .playing ∧ previous.outcome.done = false) ∧
          turn.after.stuckSteps = stillness (earlier ++ [turn]) ∧
          (turn.outcome.done = true ↔
            turn.after.failed = true ∨ turn.after.snapshot.isFinished = true ∨
              episode.timing.stuckStepLimit ≤ stillness (earlier ++ [turn])) ∧
          (turn.after.failed = false → turn.after.snapshot.isFinished = false →
            (episode.timing.stuckStepLimit = 0 → earlier = [] ∧ turn.outcome.done = true) ∧
            (0 < episode.timing.stuckStepLimit →
              (turn.outcome.done = true ↔
                stillness (earlier ++ [turn]) = episode.timing.stuckStepLimit) ∧
              ∀ first, first <+: earlier → stillness first < episode.timing.stuckStepLimit)) ∧
          (episode.timing.stuckStepLimit < UInt32.size →
            turn.before.stuckSteps + 1 < UInt32.size)) := by
  rw [startTurns, ensures_bind]
  refine (reset_waits polls episode).mono ?_
  rintro ⟨start, ended⟩ waits
  refine (takeTurns_waits polls actions waits).mono ?_
  rintro ⟨turns, last⟩ all earlier turn later split
  obtain ⟨counted, played⟩ := all earlier turn later split
  refine ⟨counted, fun playing => ?_⟩
  have givesUp := played playing
  generalize episode.timing.stuckStepLimit = limit at counted givesUp
  refine ⟨givesUp.played, givesUp.stuckSteps_eq, givesUp.done_iff, ?_, ?_⟩
  · intro able goesOn
    constructor
    · rintro rfl
      exact ⟨givesUp.eq_nil_of_zero, givesUp.done_iff.mpr (.inr (.inr (Nat.zero_le _)))⟩
    · exact fun positive => givesUp.done_iff_eq positive counted able goesOn
  · intro fits
    exact Nat.lt_of_le_of_lt givesUp.room (Nat.max_lt.mpr ⟨fits, by decide⟩)

/-- A configuration that gives games up soon. -/
def impatient : Config :=
  { Play.Rehearsal.hasty with timing := { Play.Rehearsal.hasty.timing with stuckStepLimit := 2 } }

/-- A game in which time passes only while the avatar waits. -/
def slowGame : Play.Rehearsal.Script :=
  let waits : Play.Rehearsal.Rule :=
    ⟨some (Keys.ofText "w"), [some (Keys.ofText "\x1b[2;60HTime: 1.0")], none⟩
  { Play.Rehearsal.easyGame [] with rules := waits :: (Play.Rehearsal.easyGame []).rules }

/-- In a slow game the steps before the avatar waits do not count. -/
theorem slow_game_given_up :
    ∃ events earlier turn last,
      Runs (startTurns 3 (create impatient) (["o", "w", "o", "o"].map Keys.ofText)) events
        (earlier ++ [turn], last) ∧
      (∀ previous ∈ earlier, previous.before.phase = .playing ∧ previous.outcome.done = false) ∧
      turn.outcome.done = true ∧ stillness (earlier ++ [turn]) = 2 := by
  have seen :
      ((run Play.Rehearsal.host
          (startTurns 3 (create impatient) (["o", "w", "o", "o"].map Keys.ofText))
          (.of [some slowGame])).1.bind fun result =>
        result.1.getLast?.map fun (turn : Turn) =>
          (turn.before.phase, turn.after.failed, turn.after.snapshot.isFinished,
            turn.outcome.done)) = some (.playing, false, false, true) := by
    decide +kernel
  obtain ⟨⟨turns, last⟩, ends, latest⟩ := Option.bind_eq_some_iff.mp seen
  obtain ⟨turn, turn_eq, same⟩ := Option.map_eq_some_iff.mp latest
  obtain ⟨earlier, turns_eq⟩ := List.getLast?_eq_some_iff.mp turn_eq
  simp only [Prod.mk.injEq] at same
  obtain ⟨playing, able, goesOn, done⟩ := same
  subst turns_eq
  have counted := (stuck_game_given_up 3 (create impatient) _).of_run ends earlier turn [] rfl
  obtain ⟨before, -, -, givesUp, -⟩ := counted.2 playing
  have limit : 0 < (create impatient).timing.stuckStepLimit := by decide
  exact ⟨_, earlier, turn, last, runs_transcript ends, before, done,
    (((givesUp able goesOn).2 limit).1.mp done)⟩

end RoguePilot.Episode
