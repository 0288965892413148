import RoguePilot.Proofs.Play.Lifecycle
import RoguePilot.Proofs.Session.Chunks

/-!
# The screen is a replay of the output

A session is what a new one becomes when it receives the chunks that were read since the game was
started, each once and in their order. Nothing else touches it: answers to prompts, refused keys, frames
that run out of time, and the bounds between frames and calls leave no trace in it.
-/

namespace RoguePilot

open Dialogue

namespace Play

variable {past : List Event} {session : Session}

/-- The chunk of output that an event brought. -/
def chunk? : Event → Option (List UInt8)
  | ⟨.poll _, reading⟩ => Reading.chunk reading
  | _ => none

/-- The chunks of output that events brought, in their order. -/
def chunks (events : List Event) : List (List UInt8) :=
  events.filterMap chunk?

/-- The game that is on has brought the session to where it is by its output alone. -/
inductive Replays : List Event → Session → Prop where
  /-- The game was started, and all of its output since then was received. -/
  | game (earlier : List Event) (size : Size) {later : List Event}
      (kept : ∀ event ∈ later, keepsGame event.1 = true) :
      Replays (earlier ++ ⟨.launch size, true⟩ :: later)
        ((Session.start size).receiveAll (chunks later)).1

theorem replays_launched (past : List Event) (size : Size) :
    Replays (past ++ [⟨.launch size, true⟩]) (.start size) :=
  .game past size (List.forall_mem_nil _)

theorem Replays.asked (replays : Replays past session) {event : Event}
    (keeps : keepsGame event.1 = true) :
    Replays (past ++ [event]) (session.receiveAll (chunks [event])).1 := by
  cases replays with
  | @game earlier size later kept =>
      have received_eq : ((Session.start size).receiveAll (chunks (later ++ [event]))).1 =
          (((Session.start size).receiveAll (chunks later)).1.receiveAll (chunks [event])).1 := by
        rw [chunks, List.filterMap_append, Session.receiveAll_append]
        rfl
      rw [← received_eq, List.append_assoc, List.cons_append]
      exact .game earlier size
        (List.forall_mem_append.mpr ⟨kept, List.forall_mem_singleton.mpr keeps⟩)

/-- If there is a session, the output of the game has brought it to where it is. -/
def SessionReplays : Link := fun past session _ =>
  ∀ replayed, session = some replayed → Replays past replayed

theorem SessionReplays.asked {failed : Bool} (link : SessionReplays past (some session) failed)
    {event : Event} (keeps : keepsGame event.1 = true) (after : Bool) :
    SessionReplays (past ++ [event]) (some (session.receiveAll (chunks [event])).1) after := by
  rintro replayed ⟨⟩
  exact (link session rfl).asked keeps

theorem callingKeeps_sessionReplays : CallingKeeps (fun _ _ => True) SessionReplays where
  clock {past session failed} link := by
    refine ⟨trivial, fun time => ?_⟩
    cases session with
    | none => exact fun _ absent => nomatch absent
    | some session => exact SessionReplays.asked link rfl failed
  poll _ link := ⟨trivial, fun _ => link.asked rfl _, fun _ _ => link.asked rfl _⟩
  write _ link := ⟨trivial, fun _ => link.asked rfl _⟩
  isRunning link := ⟨trivial, fun _ => link.asked rfl _⟩
  terminate _ _ := ⟨trivial, fun _ _ absent => nomatch absent⟩
  quit _ _ := ⟨trivial, fun _ => ⟨trivial, fun _ _ absent => nomatch absent⟩⟩
  launch size _ := by
    refine ⟨trivial, ?_, fun _ absent => nomatch absent⟩
    rintro replayed ⟨⟩
    exact replays_launched _ size
  giveUp link := link

end Play

namespace Episode

open Play

/--
After any calls of a new episode, whatever was answered to them, a session there is was started on a screen
of the configured extent and has received exactly the chunks that were read since the game was started.
-/
theorem session_replays_output {config : Config} {polls : Nat} {history : List Call}
    {past : List Event} {episode : Episode} {session : Session}
    (reached : Runs (callAll polls (create config) history) past episode)
    (present : episode.session = some session) :
    ∃ earlier later, past = earlier ++ ⟨.launch config.terminal.size, true⟩ :: later ∧
      (∀ event ∈ later, keepsGame event.1 = true) ∧
      session = ((Session.start config.terminal.size).receiveAll (chunks later)).1 := by
  have new : (create config).Linked SessionReplays [] := fun _ absent => nomatch absent
  have replays : Replays past session :=
    (callAll_obeys callingKeeps_sessionReplays polls history new).of_runs reached session present
  cases replays with
  | @game earlier size later kept =>
      -- The game was launched with the configured extent, as every game of the episode.
      have asks : Obeys (AsksAsSet config) (fun _ after => after.settings = (create config).settings)
          [] (callAll polls (create config) history) := callAll_asksAsSet polls history rfl
      obtain rfl : size = config.terminal.size := asks.of_begins reached.begins
      exact ⟨earlier, later, rfl, kept, rfl⟩

/-- An easy game that was started and refused the first action has left a session that replays it. -/
theorem refused_action_replays :
    ∃ past episode session earlier later,
      Runs (callAll 3 (create Rehearsal.hasty) [.reset, .step (Keys.ofText "o")]) past episode ∧
      episode.failed = true ∧ episode.session = some session ∧
      past = earlier ++ ⟨.launch Rehearsal.hasty.terminal.size, true⟩ :: later ∧
      (∀ event ∈ later, keepsGame event.1 = true) ∧
      session =
        ((Session.start Rehearsal.hasty.terminal.size).receiveAll (chunks later)).1 := by
  have seen :
      ((run Rehearsal.host (callAll 3 (create Rehearsal.hasty) [.reset, .step (Keys.ofText "o")])
        (.of [some (Rehearsal.easyGame [0])])).1.map fun episode =>
          (episode.failed, episode.session.isSome)) = some (true, true) := by
    decide +kernel
  obtain ⟨episode, yields, seen_eq⟩ := Option.map_eq_some_iff.mp seen
  simp only [Prod.mk.injEq, Option.isSome_iff_exists] at seen_eq
  obtain ⟨failed, session, present⟩ := seen_eq
  have reached := runs_transcript yields
  obtain ⟨earlier, later, past_eq, kept, session_eq⟩ := session_replays_output reached present
  exact ⟨_, episode, session, earlier, later, reached, failed, present, past_eq, kept, session_eq⟩

end Episode

end RoguePilot
