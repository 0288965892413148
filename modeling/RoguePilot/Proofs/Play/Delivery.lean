import RoguePilot.Proofs.Dialogue.Hosts
import RoguePilot.Proofs.Play.Conduct

/-!
# What becomes of an action

Only a game that is on is asked anything, and a step that does not end the episode has typed its action
into one, unless the episode was closed. Closing takes the session away and leaves the phase as it is: a
step of a closed episode goes through all the motions without a game, and the action is lost.
-/

namespace RoguePilot

open Dialogue

namespace Play

/-- Whether a game is on after an event, given whether one was on before. -/
def noteGame (on : Bool) : Event → Bool
  | ⟨.launch _, launched⟩ => launched
  | ⟨.terminate _, _⟩ => false
  | _ => on

/-- A game was started and has not been stopped since. -/
def isGameOn (events : List Event) : Bool :=
  events.foldl noteGame false

@[simp] theorem isGameOn_append (past : List Event) (event : Event) :
    isGameOn (past ++ [event]) = noteGame (isGameOn past) event := by
  simp [isGameOn]

/-- A game is started when none is on, and only a game that is on is asked anything. -/
def AsksGameThatIsOn : Rule
  | past, .launch _ => isGameOn past = false
  | _, .clock => True
  | past, _ => isGameOn past = true

/-- There is a session just while a game is on. -/
theorem callingKeeps_isGameOn :
    CallingKeeps AsksGameThatIsOn fun past session _ => session.isSome = isGameOn past where
  clock here := by
    refine ⟨trivial, fun time => ?_⟩
    rw [isGameOn_append]
    exact here
  poll milliseconds here := by
    refine ⟨here.symm, fun time => ?_, fun chunk time => ?_⟩
    · rw [isGameOn_append]
      exact here
    · rw [isGameOn_append]
      exact here
  write keys here := by
    refine ⟨here.symm, fun accepted => ?_⟩
    rw [isGameOn_append]
    exact here
  isRunning here := by
    refine ⟨here.symm, fun running => ?_⟩
    rw [isGameOn_append]
    exact here
  terminate milliseconds here := by
    refine ⟨here.symm, fun stopped => ?_⟩
    rw [isGameOn_append]
    rfl
  quit milliseconds here := by
    refine ⟨here.symm, fun accepted => ⟨?_, fun stopped => ?_⟩⟩
    · change isGameOn _ = true
      rw [isGameOn_append]
      exact here.symm
    · rw [isGameOn_append]
      rfl
  launch size here := by
    refine ⟨here.symm, ?_, ?_⟩
    · rw [isGameOn_append]
      rfl
    · rw [isGameOn_append]
      rfl
  giveUp here := here

end Play

namespace Episode

open Play

/-! ## Closed episodes -/

/-- Whether the episode is closed after a call, given whether it was before. -/
def Call.leavesClosed (closed : Bool) : Call → Bool
  | .reset => false
  | .step _ => closed
  | .close => true

/-- The episode was closed after it was last started. -/
def endsClosed (calls : List Call) : Bool :=
  calls.foldl Call.leavesClosed false

/-- An episode that is played has a session just when it is not closed. -/
def OpenUnless (closed : Bool) (episode : Episode) : Prop :=
  episode.phase = .playing → episode.session.isSome = !closed

theorem Advances.session_isSome {before : Episode} {result : Episode × Int}
    (advances : Advances before result) : result.1.session.isSome = before.session.isSome := by
  cases advances with
  | silent reads session_eq => exact reads.session_isSome
  | evaluated reads frame =>
      rw [session_takeSnapshot]
      exact reads.session_isSome

theorem call_openUnless (polls : Nat) {closed : Bool} {episode : Episode}
    (here : episode.OpenUnless closed) (next : Call) :
    (call polls episode next).Ensures (OpenUnless (next.leavesClosed closed)) := by
  cases next with
  | reset =>
      rw [call, ensures_bind]
      have keeps : AdvancingKeeps fun episode => episode.session.isSome = true :=
        fun _ _ present advances => advances.session_isSome.trans present
      refine (reset_ensures keeps (fun _ => rfl) polls episode).mono ?_
      rintro ⟨after, ended⟩ restarts playing
      cases restarts with
      | refused session_eq phase_eq =>
          rw [phase_eq] at playing
          contradiction
      | judged present hasBegun => exact present
  | step action =>
      rw [call, ensures_bind]
      refine (step_ensures polls episode action).mono ?_
      rintro _ (ended | ⟨able, playing, advances⟩)
      · exact here
      · intro _
        exact advances.session_isSome.trans (here playing)
  | close =>
      refine (close_ensures episode).mono ?_
      rintro after rfl playing
      rfl

theorem callAll_openUnless (polls : Nat) {closed : Bool} {episode : Episode}
    (here : episode.OpenUnless closed) (calls : List Call) :
    (callAll polls episode calls).Ensures (OpenUnless (calls.foldl Call.leavesClosed closed)) := by
  induction calls generalizing closed episode with
  | nil => exact here
  | cons next later induction =>
      rw [callAll, ensures_bind]
      refine (call_openUnless polls here next).mono ?_
      intro after there
      exact induction there

/-! ## Typing an action -/

section

variable {polls : Nat} {events : List Event} {episode after sent : Episode}
  {action keys : List UInt8} {outcome : Outcome}

/-- Only an episode that is played goes on. -/
theorem playing_of_goesOn (run : Runs (episode.step polls action) events (after, outcome))
    (goesOn : outcome.done = false) : episode.failed = false ∧ episode.phase = .playing := by
  have steps : Steps episode (after, outcome) :=
    (ensures_iff_runs _).mp (step_ensures polls episode action) events _ run
  cases steps with
  | idle ended => contradiction
  | acted able playing advances => exact ⟨able, playing⟩

/-- A step that does not end the episode begins by typing, which does not fail, and reads a frame. -/
theorem runs_step (run : Runs (episode.step polls action) events (after, outcome))
    (goesOn : outcome.done = false) :
    ∃ typing sent reading result, events = typing ++ reading ∧
      Runs (episode.countStep.send action) typing sent ∧ sent.failed = false ∧
      Runs (sent.advance polls) reading result := by
  obtain ⟨able, playing⟩ := playing_of_goesOn run goesOn
  have going : (episode.failed || decide (episode.phase ≠ .playing)) = false := by
    simp [able, playing]
  rw [step, going, if_neg Bool.false_ne_true] at run
  obtain ⟨typing, reading, sent, rfl, sends, rest⟩ := runs_bind_iff.mp run
  dsimp only at rest
  split at rest
  · next refused =>
    -- A step whose typing fails ends the episode.
    obtain ⟨-, same⟩ := runs_done_iff.mp rest
    cases same
    simp [endsAfterStep, isOver, addReward, countStuck, refused] at goesOn
  · next accepted =>
    obtain ⟨frame, ends, result, rfl, advances, finish⟩ := runs_bind_iff.mp rest
    obtain ⟨rfl, -⟩ := runs_done_iff.mp finish
    rw [List.append_nil]
    exact ⟨typing, sent, frame, result, rfl, sends, Bool.eq_false_iff.mpr accepted, advances⟩

/-- With a session keys are typed, and were accepted if typing has not failed after it. -/
theorem runs_send (run : Runs (episode.send keys) events sent)
    (present : episode.session.isSome = true) (able : episode.failed = false)
    (accepted : sent.failed = false) : events = [⟨.write keys, true⟩] := by
  have going : (episode.failed || episode.session.isNone) = false := by
    rw [able, Bool.false_or, Option.isNone_eq_false_iff]
    exact present
  rw [send, going, if_neg Bool.false_ne_true] at run
  obtain ⟨answer, rest, rfl, finish⟩ := runs_ask_iff.mp run
  obtain ⟨rfl, rfl⟩ := runs_done_iff.mp finish
  obtain rfl : answer = true := Bool.not_inj accepted
  rfl

end

/-- Without a session a game is asked nothing. -/
theorem playingKeeps_absent :
    PlayingKeeps (fun _ request => request = Request.clock) fun _ session _ => session = none where
  clock absent := ⟨rfl, fun _ => absent⟩
  poll _ absent := nomatch absent
  write _ absent := nomatch absent

/-- An action was typed and accepted while a game was on, and the game stayed on after it. -/
structure Delivered (past events : List Event) (action : List UInt8) : Prop where
  /-- A game was on. -/
  game_on : isGameOn past = true
  /-- The action was typed first, and nothing that is not of playing was asked after it. -/
  typed : ∃ reading, events = ⟨.write action, true⟩ :: reading ∧
    ∀ event ∈ reading, isOfPlay event.1 = true

variable {polls : Nat} {past events : List Event} {episode after : Episode} {action : List UInt8}
  {outcome : Outcome}

theorem delivered_of_isSome (game_on : isGameOn past = true)
    (present : episode.session.isSome = true)
    (run : Runs (episode.step polls action) events (after, outcome))
    (goesOn : outcome.done = false) : Delivered past events action := by
  obtain ⟨able, -⟩ := playing_of_goesOn run goesOn
  obtain ⟨typing, sent, reading, result, rfl, sends, accepted, advances⟩ := runs_step run goesOn
  have obeys : Obeys (fun _ request => isOfPlay request = true) (fun _ _ => True)
      ([] : List Event) (sent.advance polls) :=
    advance_obeys playingKeeps_isOfPlay polls trivial
  refine ⟨game_on, reading, ?_, obeys.of_mem advances⟩
  rw [runs_send sends present able accepted]
  rfl

theorem asks_only_clock (absent : episode.session = none)
    (run : Runs (episode.step polls action) events (after, outcome)) :
    ∀ event ∈ events, event.1 = Request.clock := by
  have obeys : Obeys (fun _ request => request = Request.clock)
      (fun _ result => result.1.session = none) ([] : List Event) (episode.step polls action) :=
    step_obeys playingKeeps_absent polls action absent
  exact obeys.of_mem run

/--
In a new episode with any calls behind it, whatever the outside answered, a step that does not end the
episode has delivered its action just when the episode was not closed since its last start. In a closed
episode it still does not end it, though nothing is typed at all: the episode counts as played, but has
no session.
-/
theorem action_delivered_iff (config : Config) (polls : Nat) (history : List Call)
    (reached : Runs (callAll polls (create config) history) past episode) :
    (episode.phase = .playing → (episode.session.isSome = true ↔ endsClosed history = false)) ∧
      ∀ action events after outcome, Runs (episode.step polls action) events (after, outcome) →
        outcome.done = false →
          (Delivered past events action ↔ endsClosed history = false) ∧
            (endsClosed history = true → ∀ event ∈ events, event.1 = Request.clock) := by
  have on_iff : episode.session.isSome = isGameOn past := by
    have obeys : Obeys AsksGameThatIsOn (fun past after => after.session.isSome = isGameOn past) []
        (callAll polls (create config) history) :=
      callAll_obeys callingKeeps_isGameOn polls history rfl
    exact obeys.of_runs reached
  have openUnless : episode.phase = .playing → episode.session.isSome = !endsClosed history := by
    have new : (create config).OpenUnless false := by
      intro playing
      contradiction
    have ensures := callAll_openUnless polls new history
    rw [ensures_iff_runs] at ensures
    exact ensures past episode reached
  refine ⟨fun playing => by rw [openUnless playing, Bool.not_eq_true'], ?_⟩
  intro action events after outcome run goesOn
  have open_eq := openUnless (playing_of_goesOn run goesOn).2
  refine ⟨⟨?_, ?_⟩, ?_⟩
  · intro delivered
    rw [← Bool.not_eq_true', ← open_eq, on_iff]
    exact delivered.game_on
  · intro notClosed
    rw [notClosed] at open_eq
    exact delivered_of_isSome (on_iff.symm.trans open_eq) open_eq run goesOn
  · intro closed
    rw [closed] at open_eq
    exact asks_only_clock (Option.isNone_iff_eq_none.mp (by simpa using open_eq)) run

/-- An easy game that was started is delivered the first action. -/
theorem first_action_delivered :
    ∃ past episode events after outcome,
      Runs (callAll 3 (create Rehearsal.hasty) [.reset]) past episode ∧
      Runs (episode.step 3 (Keys.ofText "o")) events (after, outcome) ∧
      outcome.done = false ∧ Delivered past events (Keys.ofText "o") := by
  have seen : (run Rehearsal.host
      (do (← callAll 3 (create Rehearsal.hasty) [.reset]).step 3 (Keys.ofText "o"))
      (.of [some (Rehearsal.easyGame [])])).1.map (·.2.done) = some false := by
    decide +kernel
  obtain ⟨⟨after, outcome⟩, yields, goesOn⟩ := Option.map_eq_some_iff.mp seen
  obtain ⟨past, events, episode, -, reached, steps⟩ := runs_bind_iff.mp (runs_transcript yields)
  have delivered :=
    ((action_delivered_iff Rehearsal.hasty 3 [.reset] reached).2 _ _ _ _ steps goesOn).1
  exact ⟨past, episode, events, after, outcome, reached, steps, goesOn, delivered.mpr rfl⟩

/-- An easy game that was started and closed still counts as played, but loses the action. -/
theorem action_lost_once_closed :
    ∃ past episode events after outcome,
      Runs (callAll 3 (create Rehearsal.hasty) [.reset, .close]) past episode ∧
      episode.phase = .playing ∧ episode.session = none ∧
      Runs (episode.step 3 (Keys.ofText "o")) events (after, outcome) ∧
      outcome.done = false ∧ ∀ event ∈ events, event.1 = Request.clock := by
  have seen : (run Rehearsal.host
      (do
        let episode ← callAll 3 (create Rehearsal.hasty) [.reset, .close]
        return (episode, ← episode.step 3 (Keys.ofText "o")))
      (.of [some (Rehearsal.easyGame [])])).1.map (fun (episode, _, outcome) =>
        (episode.phase, episode.session.isNone, outcome.done)) = some (.playing, true, false) := by
    decide +kernel
  obtain ⟨⟨episode, after, outcome⟩, yields, seen_eq⟩ := Option.map_eq_some_iff.mp seen
  simp only [Prod.mk.injEq, Option.isNone_iff_eq_none] at seen_eq
  obtain ⟨playing, absent, goesOn⟩ := seen_eq
  obtain ⟨past, events, closed, -, reached, rest⟩ := runs_bind_iff.mp (runs_transcript yields)
  obtain ⟨stepping, last, stepped, rfl, steps, finish⟩ := runs_bind_iff.mp rest
  obtain ⟨rfl, same⟩ := runs_done_iff.mp finish
  simp only [Prod.mk.injEq] at same
  obtain ⟨rfl, rfl⟩ := same
  exact ⟨past, _, stepping, after, outcome, reached, playing, absent, steps, goesOn,
    asks_only_clock absent steps⟩

end Episode

end RoguePilot
