import RoguePilot.Proofs.Play.Numbering
import RoguePilot.Proofs.Play.Refusal

/-!
# Starting with a clean slate

Starting the next game closes the last one and forgets everything but the settings and the number of
the episode. The settings never change, and the number is only ever carried along. So from the next
launch on, an episode does what a new one would do with the same answers, whatever has happened to it.
-/

namespace RoguePilot

open Dialogue

namespace Episode

open Play

/-! ## Starting in two halves -/

/-- The episode with a session that has just been started. -/
def connected (fresh : Episode) : Episode :=
  { fresh with session := some (.start fresh.size) }

@[simp] theorem connected_renumber (number : Nat) (fresh : Episode) :
    (fresh.renumber number).connected = fresh.connected.renumber number := rfl

/-- The episode whose game could not be launched. -/
def refused (fresh : Episode) : Episode :=
  { fresh with failed := true, phase := .failed }

/-- What starting comes to once it is known whether the game was launched. -/
def afterLaunch (polls : Nat) (fresh : Episode) : Bool → Play.Program (Episode × Bool)
  | false => pure (fresh.refused, true)
  | true => do
    let (waited, begun) ← awaitStart polls fresh.timing.startAttempts false fresh.connected
    return (waited.judge begun, (waited.judge begun).isOver)

theorem reset_eq (polls : Nat) (episode : Episode) :
    episode.reset polls = episode.close >>= fun closed =>
      Play.launch closed.next.size >>= afterLaunch polls closed.next := by
  rw [reset]
  refine bind_congr fun closed => bind_congr fun launched => ?_
  cases launched <;> rfl

/-- Starting the next game comes to a refused launch, or to a judgement after frames that keep a property. -/
theorem reset_ensures_of_judge {property : Episode → Prop} {post : Episode × Bool → Prop}
    (keeps : AdvancingKeeps property) (polls : Nat) (episode : Episode)
    (refused : post (episode.next.refused, true)) (connected : property episode.next.connected)
    (judged : ∀ waited begun, property waited → (begun = true → waited.hasBegun = true) →
      post (waited.judge begun, (waited.judge begun).isOver)) :
    (episode.reset polls).Ensures post := by
  rw [reset_eq, ensures_bind]
  refine (close_ensures episode).mono ?_
  rintro closed rfl
  rw [ensures_bind, ensures_launch]
  intro launched
  cases launched with
  | false => exact refused
  | true =>
      rw [afterLaunch, ensures_bind]
      refine (awaitStart_ensures keeps polls _ false connected).mono ?_
      rintro ⟨waited, begun⟩ ⟨there, hasBegun⟩
      exact judged waited begun there hasBegun

/-! ## Settings -/

/-- What an episode keeps for ever. -/
def settings (episode : Episode) : Size × TimingConfig × List UInt8 :=
  (episode.size, episode.timing, episode.weaponKey)

theorem Advances.settings_eq {before : Episode} {result : Episode × Int}
    (advances : Advances before result) : result.1.settings = before.settings := by
  cases advances with
  | silent reads session_eq => exact (congrArg settings reads.beside_eq :)
  | @evaluated after reads frame =>
      have kept : (after.takeSnapshot frame).1.settings = after.settings := by
        unfold takeSnapshot
        split <;> rfl
      exact kept.trans (congrArg settings reads.beside_eq :)

theorem call_settings (polls : Nat) (episode : Episode) (next : Call) :
    (call polls episode next).Ensures fun after => after.settings = episode.settings := by
  cases next with
  | reset =>
      have keeps : AdvancingKeeps fun after => after.settings = episode.settings :=
        fun _ _ same advances => advances.settings_eq.trans same
      rw [call, ensures_bind]
      exact reset_ensures_of_judge keeps polls episode rfl rfl fun _ _ same _ => same
  | step action =>
      rw [call, ensures_bind]
      refine (step_ensures polls episode action).mono ?_
      rintro _ (ended | ⟨able, playing, advances⟩)
      · rfl
      · exact (advances.settings_eq :)
  | close =>
      refine (close_ensures episode).mono ?_
      rintro closed rfl
      rfl

/-- The next episode is a new one, but for its number. -/
theorem next_eq_renumber {config : Config} {episode : Episode}
    (same : episode.settings = (create config).settings) :
    episode.next = (create config).renumber (episode.tally.episode + 1) := by
  simp only [settings, Prod.mk.injEq] at same
  obtain ⟨size_eq, timing_eq, weaponKey_eq⟩ := same
  rw [next, size_eq, timing_eq, weaponKey_eq]
  rfl

theorem next_of_runs {config : Config} {polls : Nat} {history : List Call} {past : List Event}
    {episode : Episode} (reached : Runs (callAll polls (create config) history) past episode) :
    episode.next = (create config).renumber (episode.tally.episode + 1) := by
  have keeps (here : Episode) (next : Call) (same : here.settings = (create config).settings) :
      (call polls here next).Ensures fun after => after.settings = (create config).settings :=
    (call_settings polls here next).mono fun _ kept => kept.trans same
  exact next_eq_renumber
    ((ensures_iff_runs _).mp (callAll_ensures keeps history rfl) past episode reached)

/-! ## Starting and stepping -/

/-- A started episode and the steps it took. -/
structure Playthrough where
  /-- The episode once it was started. -/
  start : Episode
  /-- It was over from the start. -/
  ended : Bool
  /-- The episode after each step, with the outcome of the step. -/
  steps : List (Episode × Outcome)

/-- The playthrough under another number. -/
def Playthrough.renumber (number : Nat) (played : Playthrough) : Playthrough where
  start := played.start.renumber number
  ended := played.ended
  steps := played.steps.map (Prod.map (Episode.renumber number) id)

theorem Playthrough.renumber_comp_renumber (first second : Nat) :
    renumber second ∘ renumber first = renumber second := by
  funext played
  simp only [Function.comp_apply, renumber, Episode.renumber_renumber, List.map_map, Prod.map_comp_map,
    Function.comp_id]
  rfl

/-- Takes a step for each action: the episode after each of them, and its outcome. -/
def stepThrough (polls : Nat) (episode : Episode) : List (List UInt8) →
    Play.Program (List (Episode × Outcome))
  | [] => pure []
  | action :: actions => do
    let (after, outcome) ← episode.step polls action
    return (after, outcome) :: (← after.stepThrough polls actions)

/-- Starts the next game and takes a step for each action. -/
def playthrough (polls : Nat) (episode : Episode) (actions : List (List UInt8)) :
    Play.Program Playthrough := do
  let (start, ended) ← episode.reset polls
  return { start, ended, steps := ← start.stepThrough polls actions }

/-- What a playthrough comes to once it is known whether the game was launched. -/
def playOn (polls : Nat) (fresh : Episode) (actions : List (List UInt8)) (launched : Bool) :
    Play.Program Playthrough := do
  let (start, ended) ← afterLaunch polls fresh launched
  return { start, ended, steps := ← start.stepThrough polls actions }

theorem playthrough_eq (polls : Nat) (episode : Episode) (actions : List (List UInt8)) :
    episode.playthrough polls actions = episode.close >>= fun closed =>
      Play.launch closed.next.size >>= playOn polls closed.next actions := by
  rw [playthrough, reset_eq, Dialogue.bind_assoc]
  exact bind_congr fun closed => Dialogue.bind_assoc _ _ _

section

variable (number : Nat)

theorem afterLaunch_renumber (polls : Nat) (fresh : Episode) (launched : Bool) :
    afterLaunch polls (fresh.renumber number) launched =
      Prod.map (renumber number) id <$> afterLaunch polls fresh launched := by
  cases launched with
  | false => rfl
  | true =>
      rw [afterLaunch, afterLaunch, timing_renumber, connected_renumber, awaitStart_renumber,
        bind_map_left, map_bind]
      exact bind_congr fun _ => rfl

theorem stepThrough_renumber (polls : Nat) (episode : Episode) (actions : List (List UInt8)) :
    (episode.renumber number).stepThrough polls actions =
      List.map (Prod.map (renumber number) id) <$> episode.stepThrough polls actions := by
  induction actions generalizing episode with
  | nil => rfl
  | cons action actions induction =>
      rw [stepThrough, stepThrough, step_renumber, bind_map_left, map_bind]
      refine bind_congr ?_
      rintro ⟨after, outcome⟩
      dsimp only [Prod.map]
      rw [induction, bind_map_left, map_bind]
      exact bind_congr fun _ => rfl

theorem playOn_renumber (polls : Nat) (fresh : Episode) (actions : List (List UInt8))
    (launched : Bool) :
    playOn polls (fresh.renumber number) actions launched =
      Playthrough.renumber number <$> playOn polls fresh actions launched := by
  rw [playOn, playOn, afterLaunch_renumber, bind_map_left, map_bind]
  refine bind_congr ?_
  rintro ⟨start, ended⟩
  dsimp only [Prod.map]
  rw [stepThrough_renumber, bind_map_left, map_bind]
  exact bind_congr fun _ => rfl

end

/-! ## What is asked after the launch -/

theorem stepThrough_obeys (polls : Nat) (episode : Episode) (actions : List (List UInt8))
    (past : List Event) :
    Obeys (fun _ request => isOfPlay request = true) (fun _ _ => True) past
      (episode.stepThrough polls actions) := by
  induction actions generalizing episode past with
  | nil => trivial
  | cons action actions induction =>
      rw [stepThrough, obeys_bind]
      refine (step_obeys playingKeeps_isOfPlay polls action trivial).mono ?_
      rintro later ⟨after, outcome⟩ -
      rw [obeys_bind]
      exact (induction after later).mono fun _ _ _ => trivial

theorem playOn_obeys (polls : Nat) (fresh : Episode) (actions : List (List UInt8))
    (past : List Event) :
    Obeys (fun _ request => isOfPlay request = true) (fun _ _ => True) past
      (playOn polls fresh actions true) := by
  rw [playOn, afterLaunch, obeys_bind, obeys_bind]
  refine (awaitStart_obeys playingKeeps_isOfPlay polls _ false trivial).mono ?_
  rintro later ⟨waited, begun⟩ -
  dsimp only
  rw [pure_eq_done, obeys_done, obeys_bind]
  exact (stepThrough_obeys polls _ actions later).mono fun _ _ _ => trivial

theorem HasFailed.stepThrough_eq {episode : Episode} (failure : episode.HasFailed) (polls : Nat)
    (actions : List (List UInt8)) :
    episode.stepThrough polls actions = pure (actions.map fun _ => (episode, ⟨0, true⟩)) := by
  induction actions with
  | nil => rfl
  | cons action actions induction =>
      rw [stepThrough, failure.step_eq, pure_bind]
      dsimp only
      rw [induction]
      rfl

/-- After a launch that fails nothing is asked. -/
theorem playOn_refused (polls : Nat) (fresh : Episode) (actions : List (List UInt8)) :
    playOn polls fresh actions false =
      pure ⟨fresh.refused, true, actions.map fun _ => (fresh.refused, ⟨0, true⟩)⟩ := by
  have failure : fresh.refused.HasFailed := ⟨rfl, rfl⟩
  rw [playOn, afterLaunch, pure_bind]
  dsimp only
  rw [failure.stepThrough_eq]
  rfl

/-! ## The slate -/

theorem run_close {State : Type} (host : Host signature State) (episode : Episode) (state : State) :
    ∃ after, run host episode.close state = (some { episode with session := none }, after) := by
  unfold close
  split
  · next absent =>
    have session_eq : episode.session = none := Option.isNone_iff_eq_none.mp absent
    refine ⟨state, ?_⟩
    rw [← session_eq]
    rfl
  · rw [run_bind]
    dsimp only [isRunning, run]
    split
    · exact ⟨_, rfl⟩
    · exact ⟨_, rfl⟩

/-- Two hosts launch a game alike: both fail, or both games answer alike from then on. -/
structure LaunchesAlike {First Second : Type} (first : Host signature First) (one : First)
    (second : Host signature Second) (other : Second) (size : Size) : Prop where
  /-- Both launches fail, or none does. -/
  launched_eq : (first.respond (.launch size) one).1 = (second.respond (.launch size) other).1
  /-- The games that are launched answer alike, and the clocks agree. -/
  alike : (first.respond (.launch size) one).1 = true →
    Host.Alike (fun request => isOfPlay request = true)
      first (first.respond (.launch size) one).2 second (second.respond (.launch size) other).2

theorem LaunchesAlike.refl {State : Type} (host : Host signature State) (state : State)
    (size : Size) : LaunchesAlike host state host state size :=
  ⟨rfl, fun _ => .refl _ host _⟩

/-- A playthrough closes the episode, launches the next game and plays on with what comes of it. -/
theorem run_playthrough {State : Type} (host : Host signature State) (episode : Episode)
    (state : State) (polls : Nat) (actions : List (List UInt8)) :
    let closed := (run host episode.close state).2
    let launch := host.respond (.launch episode.size) closed
    (run host (episode.playthrough polls actions) state).1 =
        (run host (playOn polls episode.next actions launch.1) launch.2).1 ∧
      transcript host (episode.playthrough polls actions) state =
        transcript host episode.close state ++ ⟨.launch episode.size, launch.1⟩ ::
          transcript host (playOn polls episode.next actions launch.1) launch.2 := by
  obtain ⟨after, ran⟩ := run_close host episode state
  have next_eq : ({ episode with session := none } : Episode).next = episode.next := rfl
  rw [playthrough_eq, run_bind, transcript_bind ran, ran, next_eq]
  exact ⟨rfl, rfl⟩

theorem run_playOn_renumber {State : Type} (host : Host signature State) (number polls : Nat)
    (fresh : Episode) (actions : List (List UInt8)) (launched : Bool) (state : State) :
    (run host (playOn polls (fresh.renumber number) actions launched) state).1 =
        (run host (playOn polls fresh actions launched) state).1.map (Playthrough.renumber number) ∧
      transcript host (playOn polls (fresh.renumber number) actions launched) state =
        transcript host (playOn polls fresh actions launched) state := by
  rw [playOn_renumber]
  exact run_map _ _ _

/-- After any calls the next game is played like the first one of a new episode, but for its number. -/
theorem run_playthrough_of_runs {config : Config} {callPolls : Nat} {history : List Call}
    {past : List Event} {episode : Episode}
    (reached : Runs (callAll callPolls (create config) history) past episode)
    {State : Type} (host : Host signature State) (state : State) (polls : Nat)
    (actions : List (List UInt8)) :
    let closed := (run host episode.close state).2
    let launch := host.respond (.launch config.terminal.size) closed
    (run host (episode.playthrough polls actions) state).1 =
        (run host (playOn polls (create config) actions launch.1) launch.2).1.map
          (Playthrough.renumber (episode.tally.episode + 1)) ∧
      transcript host (episode.playthrough polls actions) state =
        transcript host episode.close state ++ ⟨.launch config.terminal.size, launch.1⟩ ::
          transcript host (playOn polls (create config) actions launch.1) launch.2 := by
  intro closed launch
  have next_eq := next_of_runs reached
  have size_eq : episode.size = config.terminal.size := congrArg Episode.size next_eq
  obtain ⟨value_eq, events_eq⟩ := run_playthrough host episode state polls actions
  rw [size_eq, next_eq] at value_eq events_eq
  obtain ⟨renumbered, same⟩ := run_playOn_renumber host (episode.tally.episode + 1) polls
    (create config) actions launch.1 launch.2
  exact ⟨value_eq.trans renumbered, events_eq.trans (congrArg _ (congrArg _ same))⟩

/-- Games that are launched alike are played on alike. -/
theorem LaunchesAlike.playOn_eq {First Second : Type} {first : Host signature First} {one : First}
    {second : Host signature Second} {other : Second} {size : Size}
    (launches : LaunchesAlike first one second other size) (polls : Nat) (fresh : Episode)
    (actions : List (List UInt8)) :
    let left := first.respond (.launch size) one
    let right := second.respond (.launch size) other
    (run first (playOn polls fresh actions left.1) left.2).1 =
        (run second (playOn polls fresh actions right.1) right.2).1 ∧
      transcript first (playOn polls fresh actions left.1) left.2 =
        transcript second (playOn polls fresh actions right.1) right.2 := by
  obtain ⟨launched_eq, alike⟩ := launches
  dsimp only
  rw [← launched_eq]
  generalize (first.respond (.launch size) one).1 = launched at alike ⊢
  cases launched with
  | false =>
      -- Nothing is asked without a game, so that it does not matter how the hosts would answer.
      rw [playOn_refused]
      exact ⟨rfl, rfl⟩
  | true => exact (alike rfl).run_eq (playOn_obeys polls fresh actions [])

/--
Whatever has happened to two episodes of the same settings, if their next games are launched alike, then
starting them and taking any steps makes the same of both, but for the number of the episode, and is the
same exchanges with the outside, once each has closed what it had left.
-/
theorem start_forgets_history {config : Config} {onePolls otherPolls : Nat}
    {oneHistory otherHistory : List Call} {onePast otherPast : List Event} {one other : Episode}
    (one_reached : Runs (callAll onePolls (create config) oneHistory) onePast one)
    (other_reached : Runs (callAll otherPolls (create config) otherHistory) otherPast other)
    {First Second : Type} {first : Host signature First} {second : Host signature Second}
    {left : First} {right : Second}
    (launches : LaunchesAlike first (run first one.close left).2 second
      (run second other.close right).2 config.terminal.size)
    (polls : Nat) (actions : List (List UInt8)) :
    (run second (other.playthrough polls actions) right).1 =
        (run first (one.playthrough polls actions) left).1.map
          (Playthrough.renumber (other.tally.episode + 1)) ∧
      ∃ events,
        transcript first (one.playthrough polls actions) left =
          transcript first one.close left ++ events ∧
        transcript second (other.playthrough polls actions) right =
          transcript second other.close right ++ events := by
  obtain ⟨one_value, one_events⟩ := run_playthrough_of_runs one_reached first left polls actions
  obtain ⟨other_value, other_events⟩ :=
    run_playthrough_of_runs other_reached second right polls actions
  obtain ⟨value_eq, events_eq⟩ := launches.playOn_eq polls (create config) actions
  refine ⟨?_, _, one_events, ?_⟩
  · rw [other_value, one_value, ← value_eq, Option.map_map, Playthrough.renumber_comp_renumber]
  · rw [other_events, events_eq, launches.launched_eq]

/-- A game that was played and one that could not even be launched leave nothing to an easy game. -/
theorem easy_game_forgets_history :
    ∃ onePast one otherPast other left right played,
      Runs (callAll 3 (create Rehearsal.hasty) [.reset, .step (Keys.ofText "o")]) onePast one ∧
      Runs (callAll 3 (create Rehearsal.hasty) [.reset, .reset]) otherPast other ∧
      one.session.isSome = true ∧ other.session = none ∧
      (run Rehearsal.host (one.playthrough 3 [Keys.ofText "o"]) left).1 = some played ∧
      played.ended = false ∧
      (run Rehearsal.host (other.playthrough 3 [Keys.ofText "o"]) right).1 =
        some (played.renumber 3) := by
  have seen :
      (match run Rehearsal.host
            (callAll 3 (create Rehearsal.hasty) [.reset, .step (Keys.ofText "o")])
            (.of [some (Rehearsal.easyGame []), some (Rehearsal.easyGame [])]),
          run Rehearsal.host (callAll 3 (create Rehearsal.hasty) [.reset, .reset])
            (.of [none, none]) with
        | (some one, left), (some other, _) =>
          one.session.isSome && other.session.isNone && other.tally.episode == 2 &&
            ((run Rehearsal.host (one.playthrough 3 [Keys.ofText "o"]) left).1.map
              Playthrough.ended) == some false
        | _, _ => false) = true := by
    decide +kernel
  split at seen
  · next one left other _ one_ran other_ran =>
    simp only [Bool.and_eq_true, beq_iff_eq, Option.isNone_iff_eq_none] at seen
    obtain ⟨⟨⟨playing, absent⟩, number_eq⟩, goesOn⟩ := seen
    obtain ⟨played, ends, ended_eq⟩ := Option.map_eq_some_iff.mp goesOn
    have one_reached := runs_transcript (congrArg Prod.fst one_ran)
    have other_reached := runs_transcript (congrArg Prod.fst other_ran)
    -- The other episode has nothing to close, so that it can go on where the first one was closed.
    have launches : LaunchesAlike Rehearsal.host (run Rehearsal.host one.close left).2
        Rehearsal.host (run Rehearsal.host other.close (run Rehearsal.host one.close left).2).2
        Rehearsal.hasty.terminal.size := by
      have close_eq : other.close = pure other := by
        rw [close, absent]
        rfl
      rw [close_eq]
      exact .refl _ _ _
    have forgets := (start_forgets_history one_reached other_reached launches 3 [Keys.ofText "o"]).1
    rw [ends, number_eq] at forgets
    exact ⟨_, one, _, other, left, _, played, one_reached, other_reached, playing, absent, ends,
      ended_eq, forgets⟩
  · contradiction

end Episode

end RoguePilot
