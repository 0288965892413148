import RoguePilot.Proofs.Play.Viewing

/-!
# The outcome of an episode

Within an episode what is known about the game fits together and is never taken back. A game that is
played takes no more steps once it has ended, and so it ends in one way only. Starting is different: it
goes on reading frames until the dungeon has appeared, even if one of them has shown that the game is
over. Only then a game can end in two ways, and this happens just when the frames that are read until it
has started show both.
-/

namespace RoguePilot.Episode

open Dialogue Play

/-! ## Calls after a start -/

/-- The frames of the same game later on: if it ends in two ways now, it already did before. -/
structure Continues (before after : List Glimpse) : Prop where
  /-- No frame is forgotten. -/
  isPrefix : before <+: after
  /-- Whether the game ends in one way has been decided before. -/
  endsOnce_iff : EndsOnce after ↔ EndsOnce before

variable {past : List Event} {episode : Episode} {first second third : List Glimpse}

theorem Continues.refl (glimpses : List Glimpse) : Continues glimpses glimpses :=
  ⟨List.prefix_rfl, Iff.rfl⟩

theorem Continues.trans (one : Continues first second) (other : Continues second third) :
    Continues first third where
  isPrefix := one.isPrefix.trans other.isPrefix
  endsOnce_iff := other.endsOnce_iff.trans one.endsOnce_iff

theorem continues_of_goesOn (goesOn : (Snapshot.ofGlimpses first).isFinished = false)
    (glimpse? : Option Glimpse) : Continues first (first ++ glimpse?.toList) where
  isPrefix := List.prefix_append _ _
  endsOnce_iff := by
    have once := endsOnce_of_goesOn goesOn none
    rw [Option.toList_none, List.append_nil] at once
    exact iff_of_true (endsOnce_of_goesOn goesOn glimpse?) once

/-- The episode follows its game, and its phase says what is the case. -/
structure Knows (viewing : Viewing) (episode : Episode) : Prop where
  /-- It knows what has been seen. -/
  follows : Follows viewing episode
  /-- Its phase says what is the case. -/
  stands : episode.Stands

theorem knows_create (config : Config) : Knows (view []) (create config) where
  follows := by
    refine ⟨rfl, fun session present => ?_⟩
    contradiction
  stands := stands_create config

theorem Knows.isFinished_of_playing {viewing : Viewing} (knows : Knows viewing episode)
    (playing : episode.phase = .playing) :
    (Snapshot.ofGlimpses viewing.glimpses).isFinished = false := by
  rw [← knows.follows.snapshot_eq]
  exact knows.stands.goesOn playing

theorem reset_knows (past : List Event) (polls : Nat) (episode : Episode) :
    Obeys anything (fun later result => Knows (view later) result.1 ∧
      (result.2 = false → result.1.phase = .playing)) past (episode.reset polls) := by
  refine ((reset_follows past polls episode).and_ensures (reset_stands polls episode)).mono ?_
  rintro later ⟨start, ended⟩ ⟨follows, stands, reports, -⟩
  refine ⟨⟨follows, stands⟩, fun goesOn => Decidable.not_not.mp fun idle => ?_⟩
  rw [reports.mpr idle] at goesOn
  contradiction

theorem step_knows (polls : Nat) (action : List UInt8) (knows : Knows (view past) episode) :
    Obeys anything (fun later result => Knows (view later) result.1 ∧
      Continues (view past).glimpses (view later).glimpses) past (episode.step polls action) := by
  have follows := step_follows polls action knows.follows
  refine (follows.and_ensures (step_ensures polls episode action)).mono ?_
  rintro later result ⟨⟨still, glimpse?, glimpses_eq, idle⟩, steps⟩
  refine ⟨⟨still, (knows.stands.step steps).1⟩, ?_⟩
  rw [glimpses_eq]
  -- A game that is played has not ended, so that the frame of this step is the first that can show it.
  by_cases playing : episode.phase = .playing
  · exact continues_of_goesOn (knows.isFinished_of_playing playing) glimpse?
  · rw [idle playing, Option.toList_none, List.append_nil]
    exact .refl _

theorem close_knows (knows : Knows (view past) episode) :
    Obeys anything (fun later closed => Knows (view later) closed ∧
      Continues (view past).glimpses (view later).glimpses) past episode.close := by
  have follows := close_follows knows.follows
  refine (follows.and_ensures (close_stands knows.stands)).mono ?_
  rintro later closed ⟨⟨still, glimpses_eq⟩, stands⟩
  rw [glimpses_eq]
  exact ⟨⟨still, stands⟩, .refl _⟩

theorem call_knows (polls : Nat) (next : Call) (knows : Knows (view past) episode) :
    Obeys anything (fun later after => Knows (view later) after ∧
      (.reset ≠ next → Continues (view past).glimpses (view later).glimpses)) past
      (call polls episode next) := by
  cases next with
  | reset =>
      rw [call, obeys_bind]
      refine (reset_knows past polls episode).mono ?_
      exact fun _ _ known => ⟨known.1, fun other => absurd rfl other⟩
  | step action =>
      rw [call, obeys_bind]
      exact (step_knows polls action knows).mono fun _ _ known => ⟨known.1, fun _ => known.2⟩
  | close => exact (close_knows knows).mono fun _ _ known => ⟨known.1, fun _ => known.2⟩

theorem callAll_knows (polls : Nat) (calls : List Call) (knows : Knows (view past) episode) :
    Obeys anything (fun later after => Knows (view later) after ∧
      (.reset ∉ calls → Continues (view past).glimpses (view later).glimpses)) past
      (callAll polls episode calls) := by
  induction calls generalizing past episode with
  | nil => exact ⟨knows, fun _ => .refl _⟩
  | cons next later induction =>
      rw [callAll, obeys_bind]
      refine (call_knows polls next knows).mono ?_
      rintro called_past called ⟨known, continues⟩
      refine (induction known).mono ?_
      rintro last after ⟨still, goesOn⟩
      refine ⟨still, fun noReset => ?_⟩
      exact (continues (List.ne_of_not_mem_cons noReset)).trans
        (goesOn (List.not_mem_of_not_mem_cons noReset))

theorem knows_of_runs {config : Config} {polls : Nat} {calls : List Call}
    (reached : Runs (callAll polls (create config) calls) past episode) :
    Knows (view past) episode :=
  ((callAll_knows polls calls (knows_create config)).of_runs reached).1

/-! ## What is known fits together -/

/--
After any calls of a new episode, whatever was answered to them, the snapshot is what comes of the
frames that were seen of the game. After each of these frames what was known fitted together, and none
of it was taken back by a later one; nor is it by later calls, until the next game is started.
-/
theorem findings_fit {config : Config} {polls : Nat} {calls : List Call} {events : List Event}
    {episode : Episode} (reached : Runs (callAll polls (create config) calls) events episode) :
    let seen := (view events).glimpses
    episode.snapshot = .ofGlimpses seen ∧
    (∀ first, first <+: seen → (Snapshot.ofGlimpses first).Consistent) ∧
    (∀ first second, first <+: second → second <+: seen →
      (Snapshot.ofGlimpses first).Grows (.ofGlimpses second)) ∧
    ∀ later more after, .reset ∉ later → Runs (callAll polls episode later) more after →
      episode.snapshot.Grows after.snapshot := by
  have knows := knows_of_runs reached
  refine ⟨knows.follows.snapshot_eq, fun first _ => ?_, fun first second isPrefix _ => ?_, ?_⟩
  · exact Snapshot.consistent_ofGlimpses first
  · exact Snapshot.grows_ofGlimpses isPrefix
  · intro later more after noReset run
    obtain ⟨still, continues⟩ := (callAll_knows polls later knows).of_runs run
    rw [knows.follows.snapshot_eq, still.follows.snapshot_eq]
    exact Snapshot.grows_ofGlimpses (continues noReset).isPrefix

/-- A game that was played until death has started, and closing the episode takes nothing back. -/
theorem findings_fit_after_death :
    ∃ events episode more after,
      Runs (callAll 3 (create Rehearsal.hasty) [.reset, .step Keys.space]) events episode ∧
      episode.snapshot.died = true ∧ episode.snapshot.Consistent ∧
      Runs (callAll 3 episode [.close]) more after ∧ episode.snapshot.Grows after.snapshot := by
  have seen :
      (match run Rehearsal.host
          (callAll 3 (create Rehearsal.hasty) [.reset, .step Keys.space])
          (.of [some deadlyGame]) with
        | (some episode, stage) =>
          episode.snapshot.died &&
            (run Rehearsal.host (callAll 3 episode [.close]) stage).1.isSome
        | (none, _) => false) = true := by
    decide +kernel
  split at seen
  · next episode stage played =>
    rw [Bool.and_eq_true, Option.isSome_iff_exists] at seen
    obtain ⟨died, after, closes⟩ := seen
    have reached := runs_transcript (congrArg Prod.fst played)
    have closing := runs_transcript closes
    obtain ⟨snapshot_eq, consistent, -, grows⟩ := findings_fit reached
    have fits := consistent _ List.prefix_rfl
    rw [← snapshot_eq] at fits
    exact ⟨_, episode, _, after, reached, died, fits, closing,
      grows [.close] _ after (by decide) closing⟩
  · contradiction

/-! ## Games end in one way -/

/--
After any calls of a new episode, whatever was answered to them, the game ends in one way at most and
stays as it has ended, just when its frames do not show two endings. This is decided once the game has
been started: if it can be played then, it ends in one way, and later calls do not change whether it
does, until the next game is started.
-/
theorem endsOnce_decided_at_start {config : Config} {polls : Nat} {calls : List Call}
    {events : List Event} {episode : Episode}
    (reached : Runs (callAll polls (create config) calls) events episode) :
    let seen := (view events).glimpses
    episode.snapshot = .ofGlimpses seen ∧
    (EndsOnce seen ↔ ∀ one other, ShowsEnding seen one → ShowsEnding seen other → one = other) ∧
    ∀ starting start ended, Runs (episode.reset polls) starting (start, ended) →
      let waited := (view (events ++ starting)).glimpses
      (ended = false → EndsOnce waited) ∧
      ∀ later more after, .reset ∉ later → Runs (callAll polls start later) more after →
        let played := (view (events ++ starting ++ more)).glimpses
        after.snapshot = .ofGlimpses played ∧ waited <+: played ∧
          (EndsOnce played ↔ EndsOnce waited) := by
  have knows := knows_of_runs reached
  refine ⟨knows.follows.snapshot_eq, endsOnce_iff, fun starting start ended starts => ?_⟩
  obtain ⟨known, playing⟩ := (reset_knows events polls episode).of_runs starts
  constructor
  · intro goesOn
    have once := endsOnce_of_goesOn (known.isFinished_of_playing (playing goesOn)) none
    rw [Option.toList_none, List.append_nil] at once
    exact once
  · intro later more after noReset run
    obtain ⟨still, continues⟩ := (callAll_knows polls later known).of_runs run
    exact ⟨still.follows.snapshot_eq, (continues noReset).isPrefix, (continues noReset).endsOnce_iff⟩

/-- A game that can be played and is played until death ends in one way. -/
theorem endsOnce_until_death :
    ∃ starting start more after,
      Runs ((create Rehearsal.hasty).reset 3) starting (start, false) ∧
      Runs (callAll 3 start [.step Keys.space, .step Keys.space]) more after ∧
      after.snapshot.died = true ∧ EndsOnce (view (starting ++ more)).glimpses := by
  have seen :
      (match run Rehearsal.host ((create Rehearsal.hasty).reset 3) (.of [some deadlyGame]) with
        | (some (start, ended), stage) =>
          !ended &&
            ((run Rehearsal.host (callAll 3 start [.step Keys.space, .step Keys.space])
              stage).1.map fun after => after.snapshot.died) == some true
        | (none, _) => false) = true := by
    decide +kernel
  split at seen
  · next start ended stage started =>
    rw [Bool.and_eq_true, Bool.not_eq_true', beq_iff_eq] at seen
    obtain ⟨rfl, dies⟩ := seen
    obtain ⟨after, plays, died⟩ := Option.map_eq_some_iff.mp dies
    have starts := runs_transcript (congrArg Prod.fst started)
    have playing := runs_transcript plays
    have new : Runs (callAll 3 (create Rehearsal.hasty) []) [] (create Rehearsal.hasty) := .done _
    obtain ⟨once, later⟩ := (endsOnce_decided_at_start new).2.2 _ start false starts
    obtain ⟨-, -, endsOnce_iff⟩ := later _ _ after (by decide) playing
    exact ⟨_, start, _, after, starts, playing, died, endsOnce_iff.mpr (once rfl)⟩
  · contradiction

/-- A game in which the character dies and still escapes before the dungeon has appeared. -/
def restlessGame : Rehearsal.Script :=
  let shows (text : String) : Rehearsal.Entry := some (Keys.ofText text)
  { pending :=
      [shows "\x1b[1;38HHealth:9/9 Magic:0/0 AC:1 Str:1 XL:1 Next:0", none, shows "You die", none,
        shows "You have escaped", shows "\x1b[2HFound a staircase leading out of the dungeon"]
    rules := []
    refusals := []
    running := true
    typings := 0 }

/-- Starting a game goes on reading after the character has died, and records an escape besides. -/
theorem restless_game_ends_twice :
    ∃ starting start, Runs ((create Rehearsal.hasty).reset 3) starting (start, true) ∧
      start.snapshot.died = true ∧ start.snapshot.escapedWithoutOrb = true ∧
      ¬ EndsOnce (view starting).glimpses := by
  have seen :
      ((run Rehearsal.host ((create Rehearsal.hasty).reset 3) (.of [some restlessGame])).1.map
        fun result => (result.1.snapshot.died, result.1.snapshot.escapedWithoutOrb, result.2)) =
        some (true, true, true) := by
    decide +kernel
  obtain ⟨⟨start, ended⟩, yields, seen_eq⟩ := Option.map_eq_some_iff.mp seen
  simp only [Prod.mk.injEq] at seen_eq
  obtain ⟨died, escaped, rfl⟩ := seen_eq
  have starts := runs_transcript yields
  -- Both flags are set, and the snapshot is that of the frames of the run.
  have known := ((reset_knows [] 3 _).of_runs starts).1
  refine ⟨_, start, starts, died, escaped, fun once => ?_⟩
  have same := once.single _ List.prefix_rfl .died .escapedWithoutOrb
  rw [← List.nil_append (transcript _ _ _), ← known.follows.snapshot_eq] at same
  exact absurd (same died escaped) (by decide)

end RoguePilot.Episode
