import RoguePilot.Proofs.Dialogue.Conduct
import RoguePilot.Proofs.Play.Waiting

/-!
# What a frame may ask

While a frame is read, the clock is looked at, output is waited for, and prompts are answered. Whatever
every wait keeps, obeying a rule for requests, is kept by the frame.
-/

namespace RoguePilot

open Dialogue

namespace Play

/-- A request of an episode and its answer. -/
abbrev Event : Type := Exchange signature

/-- What an episode may ask after what has happened. -/
abbrev Rule : Type := List Event → signature.Request → Prop

section SingleRequests

variable {rule : Rule} {past : List Event}

@[simp] theorem obeys_launch {size : Size} {post : List Event → Bool → Prop} :
    Obeys rule post past (launch size) ↔
      rule past (.launch size) ∧ ∀ launched : Bool, post (past ++ [⟨.launch size, launched⟩]) launched :=
  Iff.rfl

@[simp] theorem obeys_write {keys : List UInt8} {post : List Event → Bool → Prop} :
    Obeys rule post past (write keys) ↔
      rule past (.write keys) ∧ ∀ accepted : Bool, post (past ++ [⟨.write keys, accepted⟩]) accepted :=
  Iff.rfl

@[simp] theorem obeys_poll {milliseconds : Nat} {post : List Event → Reading → Prop} :
    Obeys rule post past (poll milliseconds) ↔
      rule past (.poll milliseconds) ∧
        ∀ reading : Reading, post (past ++ [⟨.poll milliseconds, reading⟩]) reading :=
  Iff.rfl

@[simp] theorem obeys_clock {post : List Event → Nat → Prop} :
    Obeys rule post past clock ↔
      rule past .clock ∧ ∀ time : Nat, post (past ++ [⟨.clock, time⟩]) time :=
  Iff.rfl

@[simp] theorem obeys_isRunning {post : List Event → Bool → Prop} :
    Obeys rule post past isRunning ↔
      rule past .isRunning ∧ ∀ running : Bool, post (past ++ [⟨.isRunning, running⟩]) running :=
  Iff.rfl

@[simp] theorem obeys_terminate {milliseconds : Nat} {post : List Event → Unit → Prop} :
    Obeys rule post past (terminate milliseconds) ↔
      rule past (.terminate milliseconds) ∧
        ∀ stopped : Unit, post (past ++ [⟨.terminate milliseconds, stopped⟩]) stopped :=
  Iff.rfl

end SingleRequests

/-- Anything may be asked. -/
abbrev anything : Rule := fun _ _ => True

theorem obeys_anything {α : Type} (past : List Event) (program : Program α) :
    Obeys anything (fun _ _ => True) past program := by
  induction program generalizing past with
  | done value => trivial
  | ask request resume induction => exact ⟨trivial, fun answer => induction answer _⟩
  | unfinished => trivial

end Play

namespace Episode

open Play

variable {limits : FrameLimits} {begun polls : Nat} {episode : Episode} {session : Session}
  {frame : Frame} {past : List Event} {rule : Rule}

/-! ## One wait -/

/-- Typing does nothing, or it records the keys and whether they were accepted. -/
theorem obeys_send {post : List Event → Episode → Prop} {keys : List UInt8}
    (unable : episode.failed = true ∨ episode.session = none → post past episode)
    (typed : ∀ session, episode.failed = false → episode.session = some session →
      rule past (.write keys) ∧ ∀ accepted : Bool,
        post (past ++ [⟨.write keys, accepted⟩])
          { episode with lastSent := keys, failed := !accepted }) :
    Obeys rule post past (episode.send keys) := by
  unfold send
  split
  · next idle =>
    rw [Bool.or_eq_true, Option.isNone_iff_eq_none] at idle
    exact unable idle
  · next able =>
    rw [Bool.or_eq_true, not_or, Bool.not_eq_true, Bool.not_eq_true, Option.isNone_eq_false_iff,
      Option.isSome_iff_exists] at able
    obtain ⟨works, session, present⟩ := able
    rw [obeys_bind, obeys_write]
    exact typed session works present

/-- What happens at a wait: nothing comes, a prompt is answered, or something without one is drawn. -/
theorem wait_obeys {post : List Event → Waited → Prop} (allowed : rule past (.poll limits.pause))
    (silence : ∀ time, post (past ++ [⟨.poll limits.pause, (⟨none, time⟩ : Reading)⟩])
      ⟨episode, frame, decide (limits.quiet ≤ time - begun)⟩)
    (prompted : ∀ chunk time prompt, Prompt.detect (session.receive chunk).2 = some prompt →
      Obeys rule
        (fun later answered => post later
          ⟨answered, frame.hearing session chunk (time - begun),
            decide (limits.total ≤ time - begun)⟩)
        (past ++ [⟨.poll limits.pause, (⟨some chunk, time⟩ : Reading)⟩])
        ((episode.hearing session chunk).send prompt.reply))
    (unprompted : ∀ chunk time, Prompt.detect (session.receive chunk).2 = none →
      post (past ++ [⟨.poll limits.pause, (⟨some chunk, time⟩ : Reading)⟩])
        (drawing limits (time - begun) session chunk episode frame)) :
    Obeys rule post past (wait limits begun session episode frame) := by
  rw [wait, obeys_bind, obeys_poll]
  refine ⟨allowed, ?_⟩
  rintro ⟨output, time⟩
  cases output with
  | none => exact silence time
  | some chunk =>
      cases shown : Prompt.detect (session.receive chunk).2 with
      | some prompt =>
          simp only [shown, obeys_bind]
          exact prompted chunk time prompt shown
      | none =>
          simp only [shown]
          exact unprompted chunk time shown

/-! ## All waits of a frame -/

section AllWaits

variable {holds post : List Event → Episode → Frame → Prop}

/-- After the last wait of a frame the second property holds, and after every other one the first. -/
def Waited.Leads (holds post : List Event → Episode → Frame → Prop) (later : List Event)
    (waited : Waited) : Prop :=
  if waited.isOver then post later waited.episode waited.frame
  else holds later waited.episode waited.frame

theorem Waited.leads_of_forall {later : List Event} {waited : Waited}
    (ends : ∀ {later episode frame}, holds later episode frame → post later episode frame)
    (still : holds later waited.episode waited.frame) : waited.Leads holds post later := by
  unfold Waited.Leads
  split
  · exact ends still
  · exact still

/--
What holds before every wait, and leads to what is to hold after the last one, does so for the whole frame.
-/
theorem readOutput_obeys_of_wait
    (absent : ∀ {past episode frame}, holds past episode frame → episode.session = none →
      post past episode frame)
    (step : ∀ {past episode frame session}, holds past episode frame →
      episode.session = some session →
        Obeys rule (fun later waited => waited.Leads holds post later) past
          (wait limits begun session episode frame))
    (here : holds past episode frame) :
    Obeys rule (fun later result => post later result.1 result.2) past
      (readOutput limits begun polls episode frame) := by
  induction polls generalizing past episode frame with
  | zero => trivial
  | succ polls induction =>
      cases current : episode.session with
      | none =>
          rw [readOutput_absent current]
          exact absent here current
      | some session =>
          rw [readOutput_eq_wait current, obeys_bind]
          refine (step here current).mono fun later waited kept => ?_
          unfold Waited.Leads at kept
          split
          · next ended =>
            rw [if_pos ended] at kept
            exact kept
          · next unfinished =>
            rw [if_neg unfinished] at kept
            exact induction kept

/-- What holds before every wait of a frame, and leads to what is to hold after it, does so for the frame. -/
theorem readFrame_obeys_of_wait (allowed : rule past .clock)
    (absent : ∀ {past episode frame}, holds past episode frame → episode.session = none →
      post past episode frame)
    (step : ∀ begun {past episode frame session}, holds past episode frame →
      episode.session = some session →
        Obeys rule (fun later waited => waited.Leads holds post later) past
          (wait limits begun session episode frame))
    (limits_eq : episode.frameLimits = limits)
    (here : ∀ time, holds (past ++ [⟨.clock, time⟩]) episode {}) :
    Obeys rule
      (fun later result => ∃ after frame, post later after frame ∧ Closes after frame result)
      past (readFrame polls episode) := by
  subst limits_eq
  rw [readFrame_eq, obeys_bind, obeys_clock]
  refine ⟨allowed, fun time => ?_⟩
  rw [obeys_bind]
  refine (readOutput_obeys_of_wait absent (step time) (here time)).mono ?_
  rintro later ⟨after, frame⟩ reached
  exact ⟨after, frame, reached, closes_closing episode after frame⟩

/-- What every wait of a frame keeps still holds when the frame is over. -/
theorem readFrame_obeys_of_kept (holds : List Event → Episode → Frame → Prop)
    (allowed : rule past .clock)
    (kept : ∀ begun {past episode frame session}, holds past episode frame →
      episode.session = some session →
        Obeys rule (fun later waited => holds later waited.episode waited.frame) past
          (wait limits begun session episode frame))
    (limits_eq : episode.frameLimits = limits)
    (here : ∀ time, holds (past ++ [⟨.clock, time⟩]) episode {}) :
    Obeys rule
      (fun later result => ∃ after frame, holds later after frame ∧ Closes after frame result)
      past (readFrame polls episode) :=
  readFrame_obeys_of_wait allowed (fun still _ => still)
    (fun begun _ _ _ _ still present => (kept begun still present).mono fun _ _ =>
      Waited.leads_of_forall id)
    limits_eq here

end AllWaits

end Episode

end RoguePilot
