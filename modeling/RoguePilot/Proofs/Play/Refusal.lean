import RoguePilot.Proofs.Dialogue.Hosts
import RoguePilot.Proofs.Play.Conduct

/-!
# Refused keys

A game that refuses keys once is never typed into again, be it another answer to a prompt in the frame
that is being read, the choice of a weapon, an action, or the keys that quit the game. The episode has
failed once the call is over in which an action, an answer or the choice of a weapon was refused, and it
stays failed until it is started again: a step asks nothing and changes nothing.
-/

namespace RoguePilot

open Dialogue

namespace Play

/-- Whether keys have been refused after an event, given whether they had been before. -/
def noteRefusal (refused : Bool) : Event → Bool
  | ⟨.launch _, launched⟩ => refused && !launched
  | ⟨.write _, accepted⟩ => refused || !accepted
  | _ => refused

/-- The game that was started last has refused keys. -/
def hasRefused (events : List Event) : Bool :=
  events.foldl noteRefusal false

@[simp] theorem hasRefused_append (past : List Event) (event : Event) :
    hasRefused (past ++ [event]) = noteRefusal (hasRefused past) event := by
  simp [hasRefused]

/-- A game that has refused keys is not typed into. -/
def SparesRefusingGame : Rule
  | past, .write _ => hasRefused past = false
  | _, _ => True

/-- While a game is played, typing has failed if keys were refused. -/
theorem playingKeeps_hasRefused :
    PlayingKeeps SparesRefusingGame fun past _ failed => hasRefused past = true → failed = true where
  clock here := by
    refine ⟨trivial, fun time => ?_⟩
    rw [hasRefused_append]
    exact here
  poll milliseconds here := by
    refine ⟨trivial, fun time => ?_, fun chunk time => ?_⟩
    · rw [hasRefused_append]
      exact here
    · rw [hasRefused_append]
      exact here
  write keys here := by
    have spared := Bool.eq_false_iff.mpr fun refused => nomatch here refused
    refine ⟨spared, fun accepted => ?_⟩
    rw [hasRefused_append, spared]
    exact id

/-- As long as there is a session, typing has failed if keys were refused. -/
theorem callingKeeps_hasRefused :
    CallingKeeps SparesRefusingGame fun past session failed =>
      session.isSome = true → hasRefused past = true → failed = true where
  toPlayingKeeps := playingKeeps_hasRefused.whileOpen fun _ => trivial
  isRunning here := by
    refine ⟨trivial, fun running present => ?_⟩
    rw [hasRefused_append]
    exact here present
  terminate _ _ := ⟨trivial, fun _ absent => nomatch absent⟩
  quit _ here := by
    have spared := Bool.eq_false_iff.mpr fun refused => nomatch here rfl refused
    exact ⟨spared, fun _ => ⟨trivial, fun _ absent => nomatch absent⟩⟩
  launch size _ := by
    refine ⟨trivial, fun _ refused => ?_, fun absent => nomatch absent⟩
    rw [hasRefused_append] at refused
    simp [noteRefusal] at refused
  giveUp _ _ _ := rfl

end Play

namespace Episode

open Play

/-! ## Failed episodes -/

/-- Only starting the next game helps. -/
structure HasFailed (episode : Episode) : Prop where
  /-- Typing has failed, or the game did not begin. -/
  failed : episode.failed = true
  /-- The phase says so. -/
  phase_eq : episode.phase = .failed

theorem HasFailed.step_eq {episode : Episode} (failure : episode.HasFailed) (polls : Nat)
    (action : List UInt8) : episode.step polls action = pure (episode, ⟨0, true⟩) := by
  rw [step, failure.failed, Bool.true_or, if_pos rfl]

theorem HasFailed.call {episode : Episode} (failure : episode.HasFailed) (polls : Nat) {next : Call}
    (noReset : .reset ≠ next) : (call polls episode next).Ensures HasFailed := by
  cases next with
  | reset => contradiction
  | step action =>
      rw [Episode.call, failure.step_eq]
      exact failure
  | close =>
      refine (close_ensures episode).mono ?_
      rintro closed rfl
      exact ⟨failure.failed, failure.phase_eq⟩

theorem HasFailed.callAll {episode : Episode} (failure : episode.HasFailed) (polls : Nat)
    {calls : List Call} (noReset : .reset ∉ calls) :
    (callAll polls episode calls).Ensures HasFailed := by
  induction calls generalizing episode with
  | nil => exact failure
  | cons next later induction =>
      rw [Episode.callAll, ensures_bind]
      refine (failure.call polls (List.ne_of_not_mem_cons noReset)).mono ?_
      intro after still
      exact induction still (List.not_mem_of_not_mem_cons noReset)

/-! ## The call that is refused keys -/

theorem hasFailed_concludeStep {episode : Episode} (failed : episode.failed = true) :
    episode.concludeStep.HasFailed :=
  ⟨failed, if_pos failed⟩

theorem hasFailed_judge {episode : Episode} (failed : episode.failed = true) (begun : Bool) :
    (episode.judge begun).HasFailed := by
  have judged : (episode.failed || !begun) = true := by rw [failed, Bool.true_or]
  exact ⟨judged, if_pos judged⟩

theorem step_fails (polls : Nat) (episode : Episode) (action : List UInt8) :
    Obeys SparesRefusingGame (fun past result => hasRefused past = true → result.1.HasFailed) []
      (episode.step polls action) := by
  unfold step
  split
  · -- An idle step asks nothing, so that nothing is refused.
    intro refused
    contradiction
  · have counted : hasRefused [] = true → episode.countStep.failed = true := by
      intro refused
      contradiction
    rw [obeys_bind]
    refine (send_obeys playingKeeps_hasRefused action counted).mono ?_
    intro typed sent fails
    dsimp only
    split
    · next failed =>
      intro _
      exact hasFailed_concludeStep failed
    · rw [obeys_bind]
      refine (advance_obeys playingKeeps_hasRefused polls fails).mono ?_
      rintro later ⟨after, reward⟩ still refused
      exact hasFailed_concludeStep (still refused)

theorem reset_fails (polls : Nat) (episode : Episode) :
    Obeys SparesRefusingGame (fun past result => hasRefused past = true → result.1.HasFailed) []
      (episode.reset polls) := by
  have here : episode.session.isSome = true → hasRefused [] = true → episode.failed = true := by
    intro _ refused
    contradiction
  rw [reset, obeys_bind]
  refine (close_obeys callingKeeps_hasRefused here).mono ?_
  rintro closed_past closed -
  rw [obeys_bind, obeys_launch]
  refine ⟨trivial, fun launched => ?_⟩
  cases launched with
  | false =>
      intro _
      exact ⟨rfl, rfl⟩
  | true =>
      -- What the game before may have refused is forgotten with the launch.
      have opened : hasRefused (closed_past ++ [⟨.launch closed.next.size, true⟩]) = true →
          closed.opened.failed = true := by
        intro refused
        simp [noteRefusal] at refused
      rw [if_pos rfl, obeys_bind]
      refine (awaitStart_obeys playingKeeps_hasRefused polls _ false opened).mono ?_
      rintro later ⟨waited, begun⟩ fails refused
      exact hasFailed_judge (fails refused) begun

/-- Every call in which a game refuses keys fails, unless it was about to be stopped anyway. -/
theorem call_fails (polls : Nat) (episode : Episode) {next : Call} (noClose : next ≠ .close) :
    Obeys SparesRefusingGame (fun past after => hasRefused past = true → after.HasFailed) []
      (call polls episode next) := by
  cases next with
  | reset =>
      rw [call, obeys_bind]
      exact reset_fails polls episode
  | step action =>
      rw [call, obeys_bind]
      exact step_fails polls episode action
  | close => contradiction

/--
Whatever is answered to the calls of a new episode, keys are typed only into a game that has refused none.
And once a game has refused an action, the answer to a prompt or the choice of the first weapon, the
episode has failed from the end of that call until it is started again, and no step asks or changes
anything.
-/
theorem refusal_sticks (config : Config) (polls : Nat) (history : List Call) :
    (∀ earlier keys accepted later,
      Begins (callAll polls (create config) history)
        (earlier ++ ⟨Request.write keys, accepted⟩ :: later) →
      hasRefused earlier = false) ∧
    ∀ before next events failing, next ≠ Call.close →
      Runs (call polls before next) events failing → hasRefused events = true →
      ∀ calls more after, Call.reset ∉ calls → Runs (callAll polls failing calls) more after →
        after.failed = true ∧ after.phase = .failed ∧
          ∀ action, after.step polls action = pure (after, ⟨0, true⟩) := by
  constructor
  · intro earlier keys accepted later begins
    have new : (create config).session.isSome = true → hasRefused [] = true →
        (create config).failed = true := nofun
    exact (callAll_obeys callingKeeps_hasRefused polls history new).of_begins begins
  · intro before next events failing noClose refusing refused calls more after noReset run
    have failure := (call_fails polls before noClose).of_runs refusing refused
    have still := (ensures_iff_runs _).mp (failure.callAll polls noReset) more after run
    exact ⟨still.failed, still.phase_eq, still.step_eq polls⟩

/-- An easy game that was started and refuses the first action fails, and so it stays. -/
theorem refused_action_sticks :
    ∃ past before events failing more after,
      Runs (callAll 3 (create Rehearsal.hasty) [.reset]) past before ∧ before.phase = .playing ∧
      Runs (call 3 before (.step (Keys.ofText "o"))) events failing ∧ hasRefused events = true ∧
      Runs (callAll 3 failing [.step (Keys.ofText "o"), .close]) more after ∧
      after.failed = true ∧ after.phase = .failed ∧
      after.step 3 (Keys.ofText "o") = pure (after, ⟨0, true⟩) := by
  have seen :
      (match run Rehearsal.host (callAll 3 (create Rehearsal.hasty) [.reset])
          (.of [some (Rehearsal.easyGame [0])]) with
        | (some before, stage) =>
          decide (before.phase = .playing) &&
            hasRefused
              (transcript Rehearsal.host (call 3 before (.step (Keys.ofText "o"))) stage) &&
            match run Rehearsal.host (call 3 before (.step (Keys.ofText "o"))) stage with
            | (some failing, stage) =>
              (run Rehearsal.host (callAll 3 failing [.step (Keys.ofText "o"), .close])
                stage).1.isSome
            | (none, _) => false
        | (none, _) => false) = true := by
    decide +kernel
  split at seen
  · next before stage started =>
    simp only [Bool.and_eq_true, decide_eq_true_eq] at seen
    obtain ⟨⟨playing, refused⟩, ends⟩ := seen
    split at ends
    · next failing later refusing =>
      obtain ⟨after, closes⟩ := Option.isSome_iff_exists.mp ends
      have starts := runs_transcript (congrArg Prod.fst started)
      have refuses := runs_transcript (congrArg Prod.fst refusing)
      have runs := runs_transcript closes
      obtain ⟨failed, phase_eq, step_eq⟩ := (refusal_sticks Rehearsal.hasty 3 [.reset]).2
        before (.step _) _ failing nofun refuses refused _ _ after (by decide) runs
      exact ⟨_, before, _, failing, _, after, starts, playing, refuses, refused, runs, failed,
        phase_eq, step_eq _⟩
    · contradiction
  · contradiction

end Episode

end RoguePilot
