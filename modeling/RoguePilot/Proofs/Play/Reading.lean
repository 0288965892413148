import RoguePilot.Proofs.Play.Conduct

/-!
# What is exchanged while output is read

While a frame is read, the clock is looked at, output is waited for, and the prompts in it are answered:
each by its own reply, right after the chunk that shows it, until keys are refused. Nothing else is asked,
and the session takes in every chunk.
-/

namespace RoguePilot

open Dialogue

namespace Play

/-! ## Runs that begin with a request -/

section Requests

variable {α : Type} {events : List Event} {result : α}

theorem runs_launch_bind {size : Size} {next : Bool → Program α} :
    Runs (launch size >>= next) events result ↔
      ∃ (launched : Bool) (rest : List Event), events = ⟨.launch size, launched⟩ :: rest ∧
        Runs (next launched) rest result :=
  runs_ask_iff

theorem runs_write_bind {keys : List UInt8} {next : Bool → Program α} :
    Runs (write keys >>= next) events result ↔
      ∃ (accepted : Bool) (rest : List Event), events = ⟨.write keys, accepted⟩ :: rest ∧
        Runs (next accepted) rest result :=
  runs_ask_iff

theorem runs_poll_bind {milliseconds : Nat} {next : Reading → Program α} :
    Runs (poll milliseconds >>= next) events result ↔
      ∃ (reading : Reading) (rest : List Event), events = ⟨.poll milliseconds, reading⟩ :: rest ∧
        Runs (next reading) rest result :=
  runs_ask_iff

theorem runs_clock_bind {next : Nat → Program α} :
    Runs (clock >>= next) events result ↔
      ∃ (time : Nat) (rest : List Event), events = ⟨.clock, time⟩ :: rest ∧
        Runs (next time) rest result :=
  runs_ask_iff

theorem runs_isRunning_bind {next : Bool → Program α} :
    Runs (isRunning >>= next) events result ↔
      ∃ (running : Bool) (rest : List Event), events = ⟨.isRunning, running⟩ :: rest ∧
        Runs (next running) rest result :=
  runs_ask_iff

theorem runs_terminate_bind {milliseconds : Nat} {next : Unit → Program α} :
    Runs (terminate milliseconds >>= next) events result ↔
      ∃ (stopped : Unit) (rest : List Event), events = ⟨.terminate milliseconds, stopped⟩ :: rest ∧
        Runs (next stopped) rest result :=
  runs_ask_iff

end Requests

/-! ## Reading -/

/--
What is exchanged while output is read, with the session and whether typing has failed before and after
it.
-/
inductive Reads : Session → Bool → List Event → Session → Bool → Prop where
  /-- Nothing more is exchanged. -/
  | stop (session : Session) (failed : Bool) : Reads session failed [] session failed
  /-- The clock is looked at. -/
  | clock {session last : Session} {failed failing : Bool} {events : List Event} (time : Nat)
      (rest : Reads session failed events last failing) :
      Reads session failed (⟨.clock, time⟩ :: events) last failing
  /-- No output comes. -/
  | silence {session last : Session} {failed failing : Bool} {events : List Event}
      (milliseconds time : Nat) (rest : Reads session failed events last failing) :
      Reads session failed (⟨.poll milliseconds, (⟨none, time⟩ : Reading)⟩ :: events) last failing
  /-- Output comes that shows no prompt, or that cannot be answered any more. -/
  | output {session last : Session} {failed failing : Bool} {events : List Event}
      (milliseconds time : Nat) (chunk : List UInt8)
      (unanswered : Prompt.detect (session.receive chunk).2 = none ∨ failed = true)
      (rest : Reads (session.receive chunk).1 failed events last failing) :
      Reads session failed (⟨.poll milliseconds, (⟨some chunk, time⟩ : Reading)⟩ :: events)
        last failing
  /-- Output comes that shows a prompt, and the prompt is answered at once. -/
  | answered {session last : Session} {failing : Bool} {events : List Event}
      (milliseconds time : Nat) (chunk : List UInt8) {prompt : Prompt}
      (shown : Prompt.detect (session.receive chunk).2 = some prompt) (accepted : Bool)
      (rest : Reads (session.receive chunk).1 (!accepted) events last failing) :
      Reads session false
        (⟨.poll milliseconds, (⟨some chunk, time⟩ : Reading)⟩ ::
          ⟨.write prompt.reply, accepted⟩ :: events)
        last failing

end Play

namespace Episode

open Play

variable {events : List Event} {episode : Episode} {session : Session}

/-- What typing keys exchanges, and what becomes of the episode by it. -/
inductive Sends (episode : Episode) (keys : List UInt8) : List Event → Episode → Prop where
  /-- Nothing can be typed. -/
  | unable (idle : episode.failed = true ∨ episode.session = none) : Sends episode keys [] episode
  /-- The keys are typed once. -/
  | typed (able : episode.failed = false) (present : episode.session.isSome = true)
      (accepted : Bool) :
      Sends episode keys [⟨.write keys, accepted⟩]
        { episode with lastSent := keys, failed := !accepted }

theorem sends_of_runs {keys : List UInt8} {sent : Episode}
    (run : Runs (episode.send keys) events sent) : Sends episode keys events sent := by
  unfold send at run
  split at run
  · next idle =>
    obtain ⟨rfl, rfl⟩ := runs_done_iff.mp run
    rw [Bool.or_eq_true, Option.isNone_iff_eq_none] at idle
    exact .unable idle
  · next ready =>
    rw [Bool.or_eq_true, not_or, Bool.not_eq_true, Bool.not_eq_true,
      Option.isNone_eq_false_iff] at ready
    obtain ⟨accepted, rest, rfl, finish⟩ := runs_write_bind.mp run
    obtain ⟨rfl, rfl⟩ := runs_done_iff.mp finish
    exact .typed ready.1 ready.2 accepted

theorem Sends.of_able {keys : List UInt8} {sent : Episode} (sends : Sends episode keys events sent)
    (able : episode.failed = false) (present : episode.session.isSome = true) :
    ∃ accepted, events = [⟨.write keys, accepted⟩] ∧
      sent = { episode with lastSent := keys, failed := !accepted } := by
  cases sends with
  | unable idle =>
      rcases idle with failed | absent
      · rw [able] at failed
        contradiction
      · rw [absent] at present
        contradiction
  | typed _ _ accepted => exact ⟨accepted, rfl, rfl⟩

/-- Between two episodes with a session nothing but reading has happened. -/
def Listens (before : Episode) (events : List Event) (after : Episode) : Prop :=
  ∃ session last, before.session = some session ∧ after.session = some last ∧
    Reads session before.failed events last after.failed

/-- What one wait exchanges is the beginning of what is exchanged while output is read. -/
theorem wait_reads {limits : FrameLimits} {begun : Nat} {frame : Frame} {waited : Waited}
    (present : episode.session = some session)
    (run : Runs (wait limits begun session episode frame) events waited) :
    ∃ heard, waited.episode.session = some heard ∧
      ∀ {later : List Event} {last : Session} {failing : Bool},
        Reads heard waited.episode.failed later last failing →
          Reads session episode.failed (events ++ later) last failing := by
  obtain ⟨⟨output, time⟩, rest, rfl, polled⟩ := runs_poll_bind.mp run
  cases output with
  | none =>
      obtain ⟨rfl, rfl⟩ := runs_done_iff.mp polled
      exact ⟨session, present, .silence _ _⟩
  | some chunk =>
      dsimp only at polled
      split at polled
      · next prompt shown =>
        obtain ⟨typing, rest, answered, rfl, sends, ends⟩ := runs_bind_iff.mp polled
        obtain ⟨rfl, rfl⟩ := runs_done_iff.mp ends
        rw [List.append_nil]
        cases sends_of_runs sends with
        | unable idle =>
            have failed : episode.failed = true := idle.resolve_right (Option.some_ne_none _)
            exact ⟨_, rfl, .output _ _ _ (.inr failed)⟩
        | typed able here accepted =>
            have works : episode.failed = false := able
            rw [works]
            exact ⟨_, rfl, .answered _ _ _ shown accepted⟩
      · next unshown =>
        obtain ⟨rfl, rfl⟩ := runs_done_iff.mp polled
        refine ⟨_, session_seeing _ _ _, fun reads => ?_⟩
        change Reads _ (episode.seeing session chunk).failed _ _ _ at reads
        rw [failed_seeing] at reads
        exact .output _ _ _ (.inl unshown) reads

theorem readOutput_reads {limits : FrameLimits} {begun polls : Nat} {frame : Frame}
    {result : Episode × Frame} (present : episode.session = some session)
    (run : Runs (readOutput limits begun polls episode frame) events result) :
    ∃ last, result.1.session = some last ∧
      Reads session episode.failed events last result.1.failed := by
  induction polls generalizing episode frame events session with
  | zero => cases run
  | succ polls induction =>
      rw [readOutput_eq_wait present] at run
      obtain ⟨first, later, waited, rfl, waits, goesOn⟩ := runs_bind_iff.mp run
      obtain ⟨heard, heard_eq, begins⟩ := wait_reads present waits
      split at goesOn
      · obtain ⟨rfl, rfl⟩ := runs_done_iff.mp goesOn
        exact ⟨heard, heard_eq, begins (.stop _ _)⟩
      · obtain ⟨last, last_eq, reads⟩ := induction heard_eq goesOn
        exact ⟨last, last_eq, begins reads⟩

theorem readFrame_listens {polls : Nat} {result : Episode × Option Frame}
    (present : episode.session = some session)
    (run : Runs (readFrame polls episode) events result) : episode.Listens events result.1 := by
  rw [readFrame] at run
  obtain ⟨begun, rest, rfl, started⟩ := runs_clock_bind.mp run
  obtain ⟨reading, finish, ⟨after, frame⟩, rfl, reads, ends⟩ := runs_bind_iff.mp started
  obtain ⟨last, last_eq, reads⟩ := readOutput_reads present reads
  dsimp only at ends
  split at ends
  all_goals
    obtain ⟨rfl, rfl⟩ := runs_done_iff.mp ends
    rw [List.append_nil]
    exact ⟨session, last, present, last_eq, .clock _ reads⟩

/-- Advancing by a frame is reading. -/
theorem advance_listens {polls : Nat} {result : Episode × Int}
    (run : Runs (advance polls episode) events result) (present : episode.session.isSome = true) :
    episode.Listens events result.1 := by
  obtain ⟨session, session_eq⟩ := Option.isSome_iff_exists.mp present
  rw [advance] at run
  obtain ⟨reading, finish, ⟨after, frame?⟩, rfl, reads, ends⟩ := runs_bind_iff.mp run
  obtain ⟨first, last, first_eq, last_eq, listens⟩ := readFrame_listens session_eq reads
  dsimp only at ends
  split at ends
  all_goals
    obtain ⟨rfl, rfl⟩ := runs_done_iff.mp ends
    rw [List.append_nil]
  · refine ⟨first, last, first_eq, (session_takeSnapshot _ _).trans last_eq, ?_⟩
    rw [failed_takeSnapshot]
    exact listens
  · exact ⟨first, last, first_eq, last_eq, listens⟩

end Episode

end RoguePilot
