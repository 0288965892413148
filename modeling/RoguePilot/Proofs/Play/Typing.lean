import RoguePilot.Proofs.Play.Delivery
import RoguePilot.Proofs.Play.Lifecycle
import RoguePilot.Proofs.Play.Patience
import RoguePilot.Proofs.Play.Reading

/-!
# What is typed into a game

From the launch of a game until it is closed, everything that is asked of it follows a grammar. While the
dungeon is awaited, frames are read, in which prompts are answered, and the first weapon is chosen once at
most, after a frame that asks for it. Each step types its action and reads a frame. At the end the game is
quit, if it still runs and took all keys. Once it has refused keys, none are typed any more.
-/

namespace RoguePilot

open Dialogue

namespace Play

/-- The keys that an exchange types. -/
def typed? : Event → Option (List UInt8)
  | ⟨.write keys, _⟩ => some keys
  | _ => none

end Play

namespace Episode

open Play

variable {polls : Nat} {events : List Event} {episode : Episode}

theorem Listens.isSome_after {before after : Episode} (listens : before.Listens events after) :
    after.session.isSome = true := by
  obtain ⟨session, last, session_eq, last_eq, reads⟩ := listens
  rw [last_eq]
  rfl

/-! ## Starting -/

/--
What is exchanged while the dungeon is awaited: frames are read one after the other. After a frame at whose
end the screen asks for the first weapon and the game has not begun, the weapon is chosen, unless it was
chosen before.
-/
inductive Starts (polls : Nat) (weapon : List UInt8) :
    (weaponChosen : Bool) → Episode → List Event → Episode → Prop where
  /-- No frame is read any more. -/
  | stop (weaponChosen : Bool) (episode : Episode) :
      Starts polls weapon weaponChosen episode [] episode
  /-- A frame is read. -/
  | frame {weaponChosen : Bool} {before read after : Episode} {events later : List Event}
      {reward : Int} (run : Runs (advance polls before) events (read, reward))
      (listens : before.Listens events read) (rest : Starts polls weapon weaponChosen read later after) :
      Starts polls weapon weaponChosen before (events ++ later) after
  /-- A frame is read that asks for the first weapon, and the weapon is chosen. -/
  | choice {before read after : Episode} {events later : List Event} {reward : Int}
      (run : Runs (advance polls before) events (read, reward)) (listens : before.Listens events read)
      (asks : read.screenShows weaponMarker = true) (waits : read.hasBegun = false) (accepted : Bool)
      (rest : Starts polls weapon true { read with lastSent := weapon, failed := !accepted } later
        after) :
      Starts polls weapon false before (events ++ ⟨.write weapon, accepted⟩ :: later) after

theorem awaitStart_starts {attempts : Nat} {weapon : List UInt8} {weaponChosen begun : Bool}
    {waited : Episode}
    (run : Runs (awaitStart polls attempts weaponChosen episode) events (waited, begun))
    (present : episode.session.isSome = true) (weapon_eq : episode.weaponKey = weapon) :
    Starts polls weapon weaponChosen episode events waited ∧ waited.session.isSome = true := by
  induction attempts generalizing weaponChosen episode events with
  | zero =>
      obtain ⟨rfl, same⟩ := runs_done_iff.mp run
      cases same
      exact ⟨.stop _ _, present⟩
  | succ attempts induction =>
      rw [awaitStart] at run
      obtain ⟨reading, finish, ⟨read, reward⟩, rfl, advances, ends⟩ := runs_bind_iff.mp run
      have listens : episode.Listens reading read := advance_listens advances present
      have read_present := listens.isSome_after
      have frame : Advances episode (read, reward) :=
        (ensures_iff_runs _).mp (advance_ensures polls episode) _ _ advances
      have read_weapon : read.weaponKey = weapon :=
        (congrArg (fun settings => settings.2.2) frame.settings_eq).trans weapon_eq
      dsimp only at ends
      split at ends
      · obtain ⟨rfl, same⟩ := runs_done_iff.mp ends
        cases same
        exact ⟨.frame advances listens (.stop _ _), read_present⟩
      · next works =>
        split at ends
        · obtain ⟨rfl, same⟩ := runs_done_iff.mp ends
          cases same
          exact ⟨.frame advances listens (.stop _ _), read_present⟩
        · next waits =>
          split at ends
          · next asks =>
            simp only [Bool.and_eq_true, Bool.not_eq_true'] at asks
            obtain ⟨rfl, asks⟩ := asks
            obtain ⟨typing, later, chosen, rfl, sends, goes⟩ := runs_bind_iff.mp ends
            rw [read_weapon] at sends
            -- A frame that fails is the last one, so that nothing keeps the choice from being typed.
            obtain ⟨accepted, rfl, rfl⟩ :=
              (sends_of_runs sends).of_able (Bool.eq_false_iff.mpr works) read_present
            obtain ⟨starts, waited_present⟩ := induction goes read_present read_weapon
            exact ⟨.choice advances listens asks (Bool.eq_false_iff.mpr waits) accepted starts,
              waited_present⟩
          · obtain ⟨starts, waited_present⟩ := induction ends read_present read_weapon
            exact ⟨.frame advances listens starts, waited_present⟩

/-! ## Stepping -/

/-- What a step exchanges. -/
inductive Turn.Types (turn : Turn) : List Event → Prop where
  /-- The game is not played, and nothing is exchanged. -/
  | idle (ended : turn.before.phase ≠ .playing) : turn.Types []
  /-- The action is typed and refused, and nothing more is exchanged. -/
  | refused (playing : turn.before.phase = .playing) : turn.Types [⟨.write turn.action, false⟩]
  /-- The action is typed, and a frame is read. -/
  | typed {reading : List Event} (playing : turn.before.phase = .playing)
      (listens : turn.before.Listens reading turn.after) :
      turn.Types (⟨.write turn.action, true⟩ :: reading)

/-- There is a session, and a game that is played takes keys. -/
structure Able (episode : Episode) : Prop where
  /-- There is a session. -/
  present : episode.session.isSome = true
  /-- A game that is played has not refused any. -/
  works : episode.phase = .playing → episode.failed = false

theorem Able.after_step {before after : Episode} {outcome : Outcome} (able : before.Able)
    (steps : Steps before (after, outcome)) : after.Able := by
  by_cases playing : before.phase = .playing
  · have counts := steps.counts (able.works playing) playing
    constructor
    · cases steps with
      | idle ended => exact able.present
      | acted _ _ advances => exact advances.session_isSome.trans able.present
    · intro still
      have goesOn := counts.goesOn still
      rw [← Bool.not_eq_true, counts.done_iff, not_or, Bool.not_eq_true] at goesOn
      exact goesOn.1
  · obtain rfl : after = before := congrArg Prod.fst (steps.eq_of_not_playing playing)
    exact able

theorem step_types {action : List UInt8} {after : Episode} {outcome : Outcome} (able : episode.Able)
    (run : Runs (episode.step polls action) events (after, outcome)) :
    Turn.Types ⟨episode, action, after, outcome⟩ events := by
  unfold step at run
  split at run
  · next ended =>
    obtain ⟨rfl, -⟩ := runs_done_iff.mp run
    simp only [Bool.or_eq_true, decide_eq_true_eq] at ended
    refine .idle fun playing => ?_
    rcases ended with failed | ended
    · rw [able.works playing] at failed
      contradiction
    · exact ended playing
  · next going =>
    simp only [Bool.or_eq_true, decide_eq_true_eq, not_or, Bool.not_eq_true, ne_eq,
      Decidable.not_not] at going
    obtain ⟨works, playing⟩ := going
    obtain ⟨typing, rest, sent, rfl, sends, goes⟩ := runs_bind_iff.mp run
    obtain ⟨accepted, rfl, rfl⟩ := (sends_of_runs sends).of_able works able.present
    cases accepted with
    | false =>
        obtain ⟨rfl, -⟩ := runs_done_iff.mp goes
        exact .refused playing
    | true =>
        obtain ⟨reading, finish, advanced, rest_eq, advances, ends⟩ := runs_bind_iff.mp goes
        obtain ⟨rfl, same⟩ := runs_done_iff.mp ends
        rw [List.append_nil] at rest_eq
        subst rest_eq
        cases same
        obtain ⟨session, last, session_eq, last_eq, reads⟩ := advance_listens advances able.present
        refine .typed playing ⟨session, last, session_eq, last_eq, ?_⟩
        rw [works]
        exact reads

theorem takeTurns_types {actions : List (List UInt8)} {turns : List Turn} {last : Episode}
    (able : episode.Able) (run : Runs (takeTurns polls episode actions) events (turns, last)) :
    last.Able ∧ ∃ parts : List (Turn × List Event), turns = parts.map Prod.fst ∧
      events = parts.flatMap Prod.snd ∧ ∀ part ∈ parts, part.1.Types part.2 := by
  induction actions generalizing episode events turns with
  | nil =>
      obtain ⟨rfl, same⟩ := runs_done_iff.mp run
      cases same
      exact ⟨able, [], rfl, rfl, List.forall_mem_nil _⟩
  | cons action actions induction =>
      -- Every step leaves the episode able, so that the next one is of the same kind.
      rw [takeTurns] at run
      obtain ⟨stepping, rest, ⟨after, outcome⟩, rfl, steps, goes⟩ := runs_bind_iff.mp run
      obtain ⟨later, finish, ⟨others, still⟩, rfl, takes, ends⟩ := runs_bind_iff.mp goes
      obtain ⟨rfl, same⟩ := runs_done_iff.mp ends
      cases same
      have step : Steps episode (after, outcome) :=
        (ensures_iff_runs _).mp (step_ensures polls episode action) _ _ steps
      obtain ⟨last_able, parts, rfl, rfl, types⟩ := induction (able.after_step step) takes
      refine ⟨last_able, (⟨episode, action, after, outcome⟩, stepping) :: parts, rfl, ?_, ?_⟩
      · rw [List.append_nil]
        rfl
      · exact List.forall_mem_cons.mpr ⟨step_types able steps, types⟩

/-! ## Closing -/

/--
What closing an episode with a session exchanges: the game is quit if it is running and has refused no keys,
and stopped.
-/
def farewell (episode : Episode) (running accepted : Bool) : List Event :=
  ⟨.isRunning, running⟩ ::
    ((if running && !episode.failed then [⟨.write quitKeys, accepted⟩] else []) ++
      [⟨.terminate episode.timing.quitGrace, ()⟩])

theorem close_farewell {closed : Episode} (present : episode.session.isSome = true)
    (run : Runs episode.close events closed) :
    ∃ running accepted, events = episode.farewell running accepted := by
  unfold close at run
  rw [Option.isNone_eq_false_iff.mpr present, if_neg Bool.false_ne_true] at run
  obtain ⟨running, asked, rfl, goes⟩ := runs_isRunning_bind.mp run
  split at goes
  · next quits =>
    obtain ⟨accepted, quitted, rfl, stops⟩ := runs_write_bind.mp goes
    obtain ⟨stopped, rest, rfl, ends⟩ := runs_terminate_bind.mp stops
    obtain ⟨rfl, -⟩ := runs_done_iff.mp ends
    refine ⟨running, accepted, ?_⟩
    rw [farewell, if_pos quits]
    rfl
  · next stays =>
    obtain ⟨stopped, rest, rfl, ends⟩ := runs_terminate_bind.mp goes
    obtain ⟨rfl, -⟩ := runs_done_iff.mp ends
    refine ⟨running, true, ?_⟩
    rw [farewell, if_neg stays]
    rfl

/-! ## From the launch to the close -/

/-- A game that was started, played and closed. -/
structure Life where
  /-- The episode once the game was started. -/
  start : Episode
  /-- The steps that it was asked to take. -/
  turns : List Turn
  /-- The episode before it was closed. -/
  last : Episode

/-- Starts the next game, takes a step for each action and closes the game. -/
def live (polls : Nat) (episode : Episode) (actions : List (List UInt8)) : Play.Program Life := do
  let (start, _) ← episode.reset polls
  let (turns, last) ← start.takeTurns polls actions
  let _ ← last.close
  return { start, turns, last }

/-- What a life comes to once it is known whether the game was launched. -/
def liveOn (polls : Nat) (fresh : Episode) (actions : List (List UInt8)) (launched : Bool) :
    Play.Program Life := do
  let (start, _) ← afterLaunch polls fresh launched
  let (turns, last) ← start.takeTurns polls actions
  let _ ← last.close
  return { start, turns, last }

theorem live_eq (polls : Nat) (episode : Episode) (actions : List (List UInt8)) :
    episode.live polls actions = episode.close >>= fun closed =>
      Play.launch closed.next.size >>= liveOn polls closed.next actions := by
  rw [live, reset_eq, Dialogue.bind_assoc]
  exact bind_congr fun closed => Dialogue.bind_assoc _ _ _

theorem HasFailed.takeTurns_eq (failure : episode.HasFailed) (polls : Nat)
    (actions : List (List UInt8)) :
    episode.takeTurns polls actions =
      pure (actions.map fun action => ⟨episode, action, episode, ⟨0, true⟩⟩, episode) := by
  induction actions with
  | nil => rfl
  | cons action actions induction =>
      rw [takeTurns, failure.step_eq, pure_bind]
      dsimp only
      rw [induction]
      rfl

/-- Without a game nothing is exchanged. -/
theorem liveOn_refused {actions : List (List UInt8)} {life : Life}
    (run : Runs (liveOn polls episode.next actions false) events life) : events = [] := by
  have failure : episode.next.refused.HasFailed := ⟨rfl, rfl⟩
  have closed : episode.next.refused.close = pure episode.next.refused := close_of_closed rfl
  rw [liveOn, afterLaunch, pure_bind] at run
  dsimp only at run
  rw [failure.takeTurns_eq, pure_bind] at run
  dsimp only at run
  rw [closed] at run
  exact (runs_done_iff.mp run).1

theorem takeTurns_actions (polls : Nat) (episode : Episode) (actions : List (List UInt8)) :
    (episode.takeTurns polls actions).Ensures fun result => result.1.map Turn.action = actions := by
  induction actions generalizing episode with
  | nil => rfl
  | cons action actions induction =>
      rw [takeTurns, ensures_bind]
      refine .of_forall ?_
      rintro ⟨after, outcome⟩
      rw [ensures_bind]
      refine (induction after).mono ?_
      rintro ⟨turns, last⟩ same
      exact congrArg (action :: ·) same

theorem live_actions (polls : Nat) (episode : Episode) (actions : List (List UInt8)) :
    (episode.live polls actions).Ensures fun life => life.turns.map Turn.action = actions := by
  rw [live, ensures_bind]
  refine .of_forall ?_
  rintro ⟨start, ended⟩
  rw [ensures_bind]
  refine (takeTurns_actions polls start actions).mono ?_
  rintro ⟨turns, last⟩ same
  rw [ensures_bind]
  exact .of_forall fun _ => same

theorem takeTurns_obeys {rule : Rule} {link : Link} (keeps : PlayingKeeps rule link) (polls : Nat)
    (actions : List (List UInt8)) {past : List Event} {episode : Episode}
    (here : episode.Linked link past) :
    Obeys rule (fun past result => result.2.Linked link past) past
      (episode.takeTurns polls actions) := by
  induction actions generalizing past episode with
  | nil => exact here
  | cons action actions induction =>
      rw [takeTurns, obeys_bind]
      refine (step_obeys keeps polls action here).mono ?_
      rintro stepped_past ⟨after, outcome⟩ still
      rw [obeys_bind]
      exact (induction still).mono fun _ _ kept => kept

/-! ## Refusals -/

/-- No keys are typed after others have been refused. -/
def StopsWhenRefused (events : List Event) : Prop :=
  ∀ before keys after, events = before ++ ⟨.write keys, false⟩ :: after →
    ∀ more accepted, (⟨.write more, accepted⟩ : Event) ∉ after

/-- A refusal is remembered until a game is launched. -/
theorem hasRefused_of_refused (before : List Event) (keys : List UInt8) {after : List Event}
    (noLaunch : ∀ event ∈ after, isLaunch event.1 = false) :
    hasRefused (before ++ ⟨.write keys, false⟩ :: after) = true := by
  rw [hasRefused, List.foldl_append, List.foldl_cons]
  have refused : noteRefusal (before.foldl noteRefusal false) ⟨.write keys, false⟩ = true :=
    Bool.or_true _
  rw [refused]
  induction after with
  | nil => rfl
  | cons event after induction =>
      obtain ⟨here, later⟩ := List.forall_mem_cons.mp noLaunch
      have still : noteRefusal true event = true := by
        obtain ⟨request, answer⟩ := event
        cases request with
        | launch size => contradiction
        | _ => rfl
      rw [List.foldl_cons, still]
      exact induction later

theorem stopsWhenRefused_of_runs {α : Type} {program : Play.Program α}
    {post : List Event → α → Prop} {result : α}
    (obeys : Obeys SparesRefusingGame post [] program) (run : Runs program events result)
    (noLaunch : ∀ event ∈ events, isLaunch event.1 = false) : StopsWhenRefused events := by
  rintro before keys after rfl more accepted member
  obtain ⟨between, later, rfl⟩ := List.append_of_mem member
  have spared : hasRefused (before ++ ⟨.write keys, false⟩ :: between) = false := by
    have begins := run.begins
    rw [← List.cons_append, ← List.append_assoc] at begins
    exact obeys.of_begins begins
  have refused := hasRefused_of_refused before keys fun event between_member =>
    noLaunch event (List.mem_append_right _ (List.mem_cons_of_mem _
      (List.mem_append_left _ between_member)))
  rw [spared] at refused
  contradiction

/-- From the launch on, keys are typed only as long as none have been refused. -/
theorem liveOn_obeys (polls : Nat) (episode : Episode) (actions : List (List UInt8)) :
    Obeys SparesRefusingGame (fun _ _ => True) [] (liveOn polls episode.next actions true) := by
  -- The past is empty: what a game before has refused does not count.
  have new : hasRefused [] = true → episode.next.connected.failed = true := nofun
  rw [liveOn, afterLaunch, obeys_bind, obeys_bind]
  refine (awaitStart_obeys playingKeeps_hasRefused polls _ false new).mono ?_
  rintro waited_past ⟨waited, begun⟩ there
  have judged : hasRefused waited_past = true → (waited.judge begun).failed = true :=
    fun refused => Bool.or_eq_true_iff.mpr (.inl (there refused))
  dsimp only
  rw [pure_eq_done, obeys_done, obeys_bind]
  refine (takeTurns_obeys playingKeeps_hasRefused polls actions judged).mono ?_
  rintro taken_past ⟨turns, last⟩ still
  rw [obeys_bind]
  exact (close_obeys callingKeeps_hasRefused fun _ => still).mono fun _ _ _ => trivial

/-! ## The grammar -/

/-- What is exchanged from the launch of a game until it is closed. -/
inductive Life.Types (polls : Nat) (opened : Episode) (life : Life) : List Event → Prop where
  /-- The dungeon is awaited, the steps are taken one after the other, and the game is closed. -/
  | closed {starting : List Event} {waited : Episode} {begun : Bool}
      (starts : Starts polls opened.weaponKey false opened starting waited)
      (start_eq : life.start = waited.judge begun)
      {parts : List (Turn × List Event)} (turns_eq : life.turns = parts.map Prod.fst)
      (types : ∀ part ∈ parts, part.1.Types part.2) (running accepted : Bool) :
      life.Types polls opened
        (starting ++ (parts.flatMap Prod.snd ++ life.last.farewell running accepted))

theorem farewell_noLaunch (episode : Episode) (running accepted : Bool) :
    ∀ event ∈ episode.farewell running accepted, isLaunch event.1 = false := by
  unfold farewell
  split <;> simp [isLaunch]

theorem liveOn_types {actions : List (List UInt8)} {life : Life}
    (run : Runs (liveOn polls episode.next actions true) events life) :
    life.Types polls episode.opened events ∧ ∀ event ∈ events, isLaunch event.1 = false := by
  rw [liveOn, afterLaunch] at run
  obtain ⟨starting, rest, ⟨start, ended⟩, rfl, begins, goes⟩ := runs_bind_iff.mp run
  obtain ⟨awaiting, finish, ⟨waited, begun⟩, rfl, awaits, judges⟩ := runs_bind_iff.mp begins
  obtain ⟨rfl, same⟩ := runs_done_iff.mp judges
  cases same
  obtain ⟨stepping, rest, ⟨turns, last⟩, rfl, takes, goes⟩ := runs_bind_iff.mp goes
  obtain ⟨closing, finish, closed, rfl, closes, ends⟩ := runs_bind_iff.mp goes
  obtain ⟨rfl, rfl⟩ := runs_done_iff.mp ends
  rw [List.append_nil, List.append_nil]
  obtain ⟨starts, present⟩ := awaitStart_starts awaits rfl rfl
  have able : (waited.judge begun).Able := ⟨present, works_judge⟩
  obtain ⟨last_able, parts, rfl, stepping_eq, types⟩ := takeTurns_types able takes
  obtain ⟨running, accepted, rfl⟩ := close_farewell last_able.present closes
  constructor
  · rw [stepping_eq]
    exact .closed starts rfl rfl types running accepted
  · -- While the game is played, nothing is asked that is not of playing.
    have waits : Obeys (fun _ request => isOfPlay request = true) (fun _ _ => True) []
        (awaitStart polls episode.next.timing.startAttempts false episode.next.connected) :=
      awaitStart_obeys playingKeeps_isOfPlay polls _ false trivial
    have steps : Obeys (fun _ request => isOfPlay request = true) (fun _ _ => True) []
        (takeTurns polls (waited.judge begun) actions) :=
      takeTurns_obeys playingKeeps_isOfPlay polls actions trivial
    refine List.forall_mem_append.mpr ⟨?_, List.forall_mem_append.mpr ⟨?_, ?_⟩⟩
    · exact fun event member => isLaunch_of_isOfPlay (waits.of_mem awaits event member)
    · exact fun event member => isLaunch_of_isOfPlay (steps.of_mem takes event member)
    · exact farewell_noLaunch last running accepted

/--
Whatever is answered from one start of a game until it is closed: an earlier game is closed first. If the
launch fails, nothing more is exchanged. Otherwise the exchanges follow the grammar: frames are read, in
which each prompt is answered by its reply, until the dungeon has appeared, and the first weapon is chosen
at most once, after a frame that asks for it; every step of the game that is played types its action once
and reads a frame; and the game is quit, just when it runs and has not failed, and is stopped. After keys
have been refused none are typed any more.
-/
theorem typing_follows_grammar {actions : List (List UInt8)} {life : Life}
    (run : Runs (episode.live polls actions) events life) :
    life.turns.map Turn.action = actions ∧
    ∃ closing launched later, events = closing ++ ⟨.launch episode.size, launched⟩ :: later ∧
      Runs episode.close closing { episode with session := none } ∧
      (launched = false → later = []) ∧
      (launched = true → life.Types polls episode.opened later ∧ StopsWhenRefused later) := by
  constructor
  · exact (ensures_iff_runs _).mp (live_actions polls episode actions) events life run
  · rw [live_eq] at run
    obtain ⟨closing, rest, closed, rfl, closes, launches⟩ := runs_bind_iff.mp run
    obtain rfl : closed = { episode with session := none } :=
      (ensures_iff_runs _).mp (close_ensures episode) closing closed closes
    obtain ⟨launched, later, rfl, lives⟩ := runs_launch_bind.mp launches
    refine ⟨closing, launched, later, rfl, closes, ?_, ?_⟩
    · rintro rfl
      exact liveOn_refused lives
    · rintro rfl
      obtain ⟨types, noLaunch⟩ := liveOn_types lives
      exact ⟨types, stopsWhenRefused_of_runs (liveOn_obeys polls episode actions) lives noLaunch⟩

/-- A game that asks for the first weapon before it begins, and to go on after an action. -/
def armedGame : Rehearsal.Script :=
  let shows (text : String) : Rehearsal.Entry := some (Keys.ofText text)
  { pending := [shows "\x1b[HYou have a choice of weapons"]
    rules :=
      [⟨some (Keys.ofText "c"),
          [shows "\x1b[2HFound a staircase leading out of the dungeon",
            shows "\x1b[1;38HHealth:9/9 Magic:0/0 AC:1 Str:1 XL:1 Next:0"], none⟩,
        ⟨some (Keys.ofText "o"), [shows "--more--"], none⟩]
    refusals := []
    running := true
    typings := 0 }

/-- The keys typed in a game that asks for a weapon and, after the first action, to go on. -/
theorem armed_game_typed :
    ∃ events life later,
      Runs ((create Rehearsal.hasty).live 3 [Keys.ofText "o"]) events life ∧
      events = ⟨.launch (create Rehearsal.hasty).size, true⟩ :: later ∧
      later.filterMap typed? =
        [(create Rehearsal.hasty).weaponKey, Keys.ofText "o", Keys.space, quitKeys] ∧
      life.Types 3 (create Rehearsal.hasty).opened later ∧ StopsWhenRefused later := by
  have seen :
      ((run Rehearsal.host ((create Rehearsal.hasty).live 3 [Keys.ofText "o"])
          (.of [some armedGame])).1.isSome &&
        decide ((transcript Rehearsal.host ((create Rehearsal.hasty).live 3 [Keys.ofText "o"])
          (.of [some armedGame])).filterMap typed? =
            [(create Rehearsal.hasty).weaponKey, Keys.ofText "o", Keys.space, quitKeys])) = true := by
    decide +kernel
  simp only [Bool.and_eq_true, decide_eq_true_eq, Option.isSome_iff_exists] at seen
  obtain ⟨⟨life, ends⟩, typed_eq⟩ := seen
  have lived := runs_transcript ends
  obtain ⟨-, closing, launched, later, events_eq, closes, refused, grammar⟩ :=
    typing_follows_grammar lived
  -- Nothing has to be closed before the first game.
  obtain rfl : closing = [] := (runs_done_iff.mp closes).1
  rw [events_eq] at lived typed_eq
  cases launched with
  | false =>
      rw [refused rfl] at typed_eq
      contradiction
  | true =>
      obtain ⟨types, stops⟩ := grammar rfl
      exact ⟨_, life, later, lived, rfl, typed_eq, types, stops⟩

end Episode

end RoguePilot
