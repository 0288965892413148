import RoguePilot.Proofs.Game.Overflow
import RoguePilot.Proofs.Play.CleanSlate
import RoguePilot.Proofs.Play.Scoring

/-!
# Playing with machine integers

An episode on a machine keeps the numbers of a snapshot in thirty-two bits and the score in sixty-four, and
breaks off when a number does not fit. This never happens. The numbers are in range because they were read
off a panel. The score is in range because rewards telescope: however many steps are taken, it is what the
last snapshot is worth over the first, and the reward for the end of the game.
-/

namespace RoguePilot.Machine

open Dialogue

/-! ## Programs that can overflow -/

/-- A program of an episode that breaks off when a number overflows. -/
abbrev Program (α : Type) : Type := OptionT Play.Program α

variable {α β : Type} {post : α → Prop} {goal : β → Prop}

/-- The value, unless it has overflowed. -/
def of (value? : Option α) : Program α := OptionT.mk (pure value?)

/-- Nothing overflows on the machine: it does what the program does, which ensures a property. -/
structure Fits (machine : Program α) (program : Play.Program α) (post : α → Prop) : Prop where
  /-- The machine asks and yields the same. -/
  run_eq : machine.run = some <$> program
  /-- The program ensures the property. -/
  ensures : program.Ensures post

theorem fits_lift {program : Play.Program α} (ensures : program.Ensures post) :
    Fits (liftM program) program post :=
  ⟨rfl, ensures⟩

theorem fits_pure {value : α} (here : post value) : Fits (pure value) (pure value) post :=
  ⟨rfl, here⟩

@[simp] theorem of_some_bind (value : α) (next : α → Program β) : of (some value) >>= next = next value := rfl

theorem Fits.bind {machine : Program α} {program : Play.Program α} {next : α → Program β}
    {follow : α → Play.Program β} (first : Fits machine program post)
    (later : ∀ value, post value → Fits (next value) (follow value) goal) :
    Fits (machine >>= next) (program >>= follow) goal := by
  obtain ⟨run_eq, ensures⟩ := first
  constructor
  · rw [OptionT.run_bind, run_eq, Option.elimM, bind_map_left, map_bind]
    exact bind_congr_of_ensures ensures fun value here => (later value here).run_eq
  · rw [ensures_bind]
    exact ensures.mono fun value here => (later value here).ensures

/-! ## The episode on a machine -/

/-- Takes the snapshot and the map after a frame and scores it. -/
def takeSnapshot (episode : Episode) (frame : Frame) : Program (Episode × Int) :=
  match episode.session with
  | none => pure (episode, 0)
  | some session => do
    let current ← of (StatusPanel.snapshot session.screen episode.snapshot).signed?
    let scored ← of (Score.transition? episode.snapshot current frame.text)
    return ({ episode with
        snapshot := scored.1
        map := if current.onMainScreen then .ofScreen session.screen else episode.map },
      scored.2)

/-- Reads a frame and takes the snapshot after it, with its reward; without output there is none. -/
def advance (polls : Nat) (episode : Episode) : Program (Episode × Int) := do
  let (after, frame?) ← liftM (episode.readFrame polls)
  match frame? with
  | some frame => takeSnapshot after frame
  | none => return (after, 0)

/-- Reads frames until the dungeon has appeared, `attempts` at most, and tells whether it has. -/
def awaitStart (polls : Nat) :
    (attempts : Nat) → (weaponChosen : Bool) → Episode → Program (Episode × Bool)
  | 0, _, episode => pure (episode, false)
  | attempts + 1, weaponChosen, episode => do
    let (after, _) ← advance polls episode
    if after.failed then return (after, false)
    else if after.hasBegun then return (after, true)
    else if !weaponChosen && after.screenShows Episode.weaponMarker then
      let chosen ← liftM (after.send after.weaponKey)
      awaitStart polls attempts true chosen
    else awaitStart polls attempts weaponChosen after

/-- What starting comes to once it is known whether the game was launched. -/
def afterLaunch (polls : Nat) (fresh : Episode) : Bool → Program (Episode × Bool)
  | false => pure (fresh.refused, true)
  | true => do
    let (waited, begun) ← awaitStart polls fresh.timing.startAttempts false fresh.connected
    return (waited.judge begun, (waited.judge begun).isOver)

/-- Starts the next game, after closing the last one, and tells whether it is already over. -/
def reset (polls : Nat) (episode : Episode) : Program (Episode × Bool) := do
  let closed ← liftM episode.close
  let launched ← liftM (Play.launch closed.next.size)
  afterLaunch polls closed.next launched

/-- Adds a reward to the score, in sixty-four bits. -/
def addReward (episode : Episode) (reward : Int) : Option Episode := do
  let score ← signed? 64 (episode.tally.score + reward)
  return { episode with tally := { episode.tally with score } }

/-- What a step comes to once the game has reacted. -/
def conclude (before after : Episode) (reward : Int) : Program (Episode × Episode.Outcome) := do
  let scored ← of (addReward (after.countStuck before.snapshot.gameTime) reward)
  return (scored.concludeStep, ⟨reward, scored.endsAfterStep⟩)

/-- Types one action and waits for the game to react. -/
def step (polls : Nat) (episode : Episode) (action : List UInt8) : Program (Episode × Episode.Outcome) :=
  if episode.failed || episode.phase ≠ .playing then pure (episode, ⟨0, true⟩)
  else do
    let sent ← liftM (episode.countStep.send action)
    let (after, reward) ← if sent.failed then pure (sent, 0) else advance polls sent
    conclude episode after reward

/-- The episode after a call. -/
def call (polls : Nat) (episode : Episode) : Episode.Call → Program Episode
  | .reset => do return (← reset polls episode).1
  | .step action => do return (← step polls episode action).1
  | .close => liftM episode.close

/-- The episode after calls made in order. -/
def callAll (polls : Nat) (episode : Episode) : List Episode.Call → Program Episode
  | [] => pure episode
  | next :: later => do callAll polls (← call polls episode next) later

/-! ## Frames -/

variable {episode : Episode}

theorem fits_takeSnapshot (here : episode.snapshot.InRange) (frame : Frame) :
    Fits (takeSnapshot episode frame) (pure (episode.takeSnapshot frame)) fun result =>
      result.1.snapshot.InRange := by
  unfold takeSnapshot Episode.takeSnapshot
  cases episode.session with
  | none => exact fits_pure here
  | some session =>
      have read := StatusPanel.inRange_snapshot session.screen here
      have scored := Score.transition?_eq here read frame.text
      dsimp only
      rw [read.signed?, of_some_bind, scored, of_some_bind]
      exact fits_pure (Score.inRange_transition read frame.text)

/-- What advancing by a frame makes of an episode whose numbers are in range. -/
structure Advanced (before : Episode) (result : Episode × Int) : Prop where
  /-- It advances. -/
  advances : Episode.Advances before result
  /-- The numbers are in range again. -/
  inRange : result.1.snapshot.InRange

theorem fits_advance (polls : Nat) (here : episode.snapshot.InRange) :
    Fits (advance polls episode) (episode.advance polls) (Advanced episode) := by
  refine (fits_lift (Episode.readFrame_ensures polls episode)).bind ?_
  intro read reads
  obtain ⟨after, frame?⟩ := read
  obtain ⟨reads, silent⟩ := reads
  have kept : after.snapshot.InRange := by
    rw [reads.snapshot_eq]
    exact here
  cases frame? with
  | none => exact fits_pure ⟨.silent reads (silent rfl), kept⟩
  | some frame =>
      obtain ⟨run_eq, inRange⟩ := fits_takeSnapshot kept frame
      exact ⟨run_eq, .evaluated reads frame, inRange⟩

theorem score_advances {result : Episode × Int} (advances : Episode.Advances episode result) :
    result.1.tally.score = episode.tally.score := by
  cases advances with
  | silent reads session_eq => exact reads.score_eq
  | evaluated reads frame => rw [Episode.tally_takeSnapshot, reads.score_eq]

/-! ## Starting -/

/-- The numbers are in range, and nothing was scored. -/
structure Unscored (episode : Episode) : Prop where
  /-- The numbers of the snapshot are in range. -/
  inRange : episode.snapshot.InRange
  /-- The score is zero. -/
  score_eq : episode.tally.score = 0

theorem fits_awaitStart (polls attempts : Nat) (weaponChosen : Bool) (here : Unscored episode) :
    Fits (awaitStart polls attempts weaponChosen episode) (episode.awaitStart polls attempts weaponChosen)
      fun result => Unscored result.1 := by
  induction attempts generalizing weaponChosen episode with
  | zero => exact fits_pure here
  | succ attempts induction =>
      refine (fits_advance polls here.inRange).bind ?_
      intro result advanced
      obtain ⟨after, reward⟩ := result
      have there : Unscored after :=
        ⟨advanced.inRange, (score_advances advanced.advances).trans here.score_eq⟩
      dsimp only
      split
      · exact fits_pure there
      · split
        · exact fits_pure there
        · split
          · refine (fits_lift (Episode.send_reads after after.weaponKey)).bind ?_
            intro chosen sent
            refine induction true ⟨?_, sent.1.score_eq.trans there.score_eq⟩
            rw [sent.1.snapshot_eq]
            exact there.inRange
          · exact induction weaponChosen there

theorem fits_reset (polls : Nat) (episode : Episode) :
    Fits (reset polls episode) (episode.reset polls) fun result => Unscored result.1 := by
  rw [Episode.reset_eq]
  refine (fits_lift (Episode.close_ensures episode)).bind ?_
  intro closed _
  have fresh : Unscored closed.next := ⟨Snapshot.inRange_empty, rfl⟩
  have launches : (Play.launch closed.next.size).Ensures fun _ => True := fun _ => trivial
  refine (fits_lift launches).bind ?_
  intro launched _
  cases launched with
  | false => exact fits_pure ⟨fresh.inRange, fresh.score_eq⟩
  | true =>
      have opened : Unscored closed.next.connected := ⟨fresh.inRange, fresh.score_eq⟩
      refine (fits_awaitStart polls _ false opened).bind ?_
      intro result waited
      exact fits_pure ⟨waited.inRange, waited.score_eq⟩

/-! ## Stepping -/

/-- The score of an episode stays below this, and above its opposite. -/
def scoreLimit : Int := 220000000000

/-- What holds of an episode on a machine. -/
structure Sound (episode : Episode) : Prop where
  /-- The numbers of the snapshot are in range. -/
  inRange : episode.snapshot.InRange
  /-- The score is in range. -/
  score_le : -scoreLimit ≤ episode.tally.score ∧ episode.tally.score ≤ scoreLimit
  /-- While it is played, it was scored since a snapshot whose numbers were in range, too. -/
  scoredSince : episode.phase = .playing →
    ∃ start : Snapshot, start.InRange ∧ Episode.ScoredSince start episode

theorem Unscored.sound (here : Unscored episode)
    (scored : episode.phase = .playing → Episode.ScoredSince episode.snapshot episode) : Sound episode where
  inRange := here.inRange
  score_le := by
    rw [here.score_eq]
    decide
  scoredSince playing := ⟨episode.snapshot, here.inRange, scored playing⟩

theorem sound_create (config : Config) : Sound (Episode.create config) := by
  have new : Unscored (Episode.create config) := ⟨Snapshot.inRange_empty, rfl⟩
  exact new.sound fun playing => nomatch playing

/-- However many steps were taken, one more leaves the score in range, because rewards telescope. -/
theorem Sound.step {result : Episode × Episode.Outcome} (sound : Sound episode)
    (playing : episode.phase = .playing) (steps : Episode.Steps episode result)
    (inRange : result.1.snapshot.InRange) : Sound result.1 := by
  obtain ⟨start, start_inRange, scored⟩ := sound.scoredSince playing
  have goesOn := scored.goesOn playing
  obtain ⟨scored_after, rewards⟩ := scored.step steps
  refine ⟨inRange, ?_, fun _ => ⟨start, start_inRange, scored_after⟩⟩
  cases finished : result.1.snapshot.isFinished with
  | false =>
      have worth_le := Score.worth_le start_inRange inRange
      rw [scored_after.score_eq finished]
      simp only [Score.greatestGain, Score.orbReward, scoreLimit] at worth_le ⊢
      omega
  | true =>
      have worth_le := Score.worth_le start_inRange sound.inRange
      have reward_le := (rewards.settles goesOn finished).reward_le finished
      rw [rewards.score_eq, scored.score_eq goesOn]
      simp only [Score.greatestGain, Score.orbReward, Score.escapeReward, scoreLimit] at worth_le reward_le ⊢
      omega

theorem addReward_eq {reward : Int} (sound : Sound (episode.addReward reward).concludeStep) :
    addReward episode reward = some (episode.addReward reward) := by
  have score_le : -scoreLimit ≤ episode.tally.score + reward ∧ episode.tally.score + reward ≤ scoreLimit :=
    sound.score_le
  simp only [scoreLimit] at score_le
  rw [addReward, signed?_eq_some (by omega) (by omega)]
  rfl

theorem fits_conclude {result : Episode × Int} (sound : Sound episode) (able : episode.failed = false)
    (playing : episode.phase = .playing) (advanced : Advanced episode.countStep result) :
    Fits (conclude episode result.1 result.2)
      (pure ((episode.settleStep result.1 result.2).concludeStep,
        ⟨result.2, (episode.settleStep result.1 result.2).endsAfterStep⟩))
      fun result => Sound result.1 := by
  have sound_after := sound.step playing (.acted able playing advanced.advances) advanced.inRange
  rw [conclude, addReward_eq sound_after, of_some_bind]
  exact fits_pure sound_after

theorem fits_step (polls : Nat) (action : List UInt8) (sound : Sound episode) :
    Fits (step polls episode action) (episode.step polls action) fun result => Sound result.1 := by
  unfold step Episode.step
  split
  · exact fits_pure sound
  · next going =>
    simp only [Bool.or_eq_true, decide_eq_true_eq, not_or, Bool.not_eq_true, ne_eq, Decidable.not_not] at going
    obtain ⟨able, playing⟩ := going
    refine (fits_lift (Episode.send_reads episode.countStep action)).bind ?_
    intro sent typed
    obtain ⟨reads, session_eq⟩ := typed
    have kept : sent.snapshot.InRange := by
      rw [reads.snapshot_eq]
      exact sound.inRange
    -- Whether the action was typed or not, the episode advances from its last snapshot.
    dsimp only
    split
    · exact fits_conclude sound able playing ⟨.silent reads session_eq, kept⟩
    · refine (fits_advance polls kept).bind ?_
      intro result advanced
      have advances := advanced.advances.after_reading reads session_eq
      exact fits_conclude sound able playing ⟨advances, advanced.inRange⟩

/-! ## Any calls -/

theorem fits_call (polls : Nat) (next : Episode.Call) (sound : Sound episode) :
    Fits (call polls episode next) (episode.call polls next) Sound := by
  cases next with
  | reset =>
      obtain ⟨run_eq, ensures⟩ := fits_reset polls episode
      have started : Fits (reset polls episode) (episode.reset polls) fun result => Sound result.1 := by
        refine ⟨run_eq, (ensures.and (Episode.reset_scored polls episode)).mono ?_⟩
        intro result known
        exact known.1.sound fun playing => (known.2 playing).1
      exact started.bind fun result sound => fits_pure sound
  | step action => exact (fits_step polls action sound).bind fun result sound => fits_pure sound
  | close =>
      refine fits_lift ((Episode.close_ensures episode).mono ?_)
      intro closed closed_eq
      subst closed_eq
      refine ⟨sound.inRange, sound.score_le, fun playing => ?_⟩
      obtain ⟨start, start_inRange, scored⟩ := sound.scoredSince playing
      exact ⟨start, start_inRange, scored.started, scored.goesOn, scored.orb_kept, scored.score_eq⟩

theorem fits_callAll (polls : Nat) (calls : List Episode.Call) (sound : Sound episode) :
    Fits (callAll polls episode calls) (episode.callAll polls calls) Sound := by
  induction calls generalizing episode with
  | nil => exact fits_pure sound
  | cons next later induction =>
      refine (fits_call polls next sound).bind ?_
      intro after sound_after
      exact induction sound_after

/--
After any calls of a new episode, whatever was answered to them, no number has overflowed: with thirty-two
bits for the numbers of a snapshot and sixty-four for rewards and the score, the episode does just what it
does with integers of any size. The numbers of its snapshot are neither negative nor greater than what
thirty-two bits hold, and its score stays within 220000000000 on either side.
-/
theorem arithmetic_never_overflows (config : Config) (polls : Nat) (calls : List Episode.Call) :
    (callAll polls (Episode.create config) calls).run =
        some <$> Episode.callAll polls (Episode.create config) calls ∧
      (Episode.callAll polls (Episode.create config) calls).Ensures fun episode =>
        (∀ number ∈ episode.snapshot.numbers, 0 ≤ number ∧ number ≤ 2147483647) ∧
          -220000000000 ≤ episode.tally.score ∧ episode.tally.score ≤ 220000000000 := by
  obtain ⟨run_eq, ensures⟩ := fits_callAll polls calls (sound_create config)
  exact ⟨run_eq, ensures.mono fun episode sound => ⟨sound.inRange, sound.score_le⟩⟩

end RoguePilot.Machine
