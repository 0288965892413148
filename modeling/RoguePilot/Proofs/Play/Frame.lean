import RoguePilot.Proofs.Play.Waiting

/-!
# What reading a frame changes

While a frame is read, four things happen to an episode: a chunk is received, keys are typed, the
avatar is located, and the redraw is found complete. A property of the episode and the frame so far
that all four keep therefore holds when the frame is over. One such property says that reading
leaves the play alone: the snapshot, the map, the phase and the score stay as they are until the
frame is evaluated. Of the counters only those of frames and their redraws move, and they go on
agreeing with each other.
-/

namespace RoguePilot

open Dialogue

/-! ## Single requests -/

namespace Play

@[simp] theorem ensures_launch {size : Size} {post : Bool → Prop} :
    (launch size).Ensures post ↔ ∀ launched, post launched := Iff.rfl

@[simp] theorem ensures_write {keys : List UInt8} {post : Bool → Prop} :
    (write keys).Ensures post ↔ ∀ accepted, post accepted := Iff.rfl

@[simp] theorem ensures_poll {milliseconds : Nat} {post : Reading → Prop} :
    (poll milliseconds).Ensures post ↔ ∀ reading, post reading := Iff.rfl

@[simp] theorem ensures_clock {post : Nat → Prop} :
    clock.Ensures post ↔ ∀ time, post time := Iff.rfl

@[simp] theorem ensures_isRunning {post : Bool → Prop} :
    isRunning.Ensures post ↔ ∀ running, post running := Iff.rfl

@[simp] theorem ensures_terminate {milliseconds : Nat} {post : Unit → Prop} :
    (terminate milliseconds).Ensures post ↔ ∀ stopped, post stopped := Iff.rfl

end Play

/-! ## Counters -/

namespace Tally

/-- Only redraws of frames after the first step are timed, and the complete ones among them. -/
structure TimesRedraws (tally : Tally) : Prop where
  /-- No redraw is timed before the first step. -/
  redraw_of_steps : tally.steps = 0 → tally.slowestRedraw = 0
  /-- No redraw is timed before the first frame with output. -/
  redraw_of_frames : tally.frames = 0 → tally.slowestRedraw = 0
  /-- No complete redraw is slower than the slowest one. -/
  ready_le_redraw : tally.slowestReady ≤ tally.slowestRedraw

theorem timesRedraws_of_number (number : Nat) : TimesRedraws { episode := number } :=
  ⟨fun _ => rfl, fun _ => rfl, Nat.le_refl 0⟩

end Tally

namespace Episode

/-! ## Invariants of reading -/

/-- The property is kept by everything that happens while a frame is read. -/
structure ReadingKeeps (property : Episode → Frame → Prop) : Prop where
  /-- Receiving a chunk keeps it. -/
  receive : ∀ episode frame session chunk elapsed, property episode frame →
    episode.session = some session →
      property { episode with session := some (session.receive chunk).1 }
        (frame.add (session.receive chunk).2 elapsed)
  /-- Typing keys keeps it, whether they are accepted or not. -/
  send : ∀ episode frame keys accepted, property episode frame → episode.failed = false →
    property { episode with lastSent := keys, failed := !accepted } frame
  /-- Locating the avatar keeps it. -/
  locate : ∀ episode frame screen, property episode frame →
    property (episode.locateAvatar screen) frame
  /-- Finding the redraw complete keeps it. -/
  ready : ∀ episode frame, property episode frame → property episode { frame with ready := true }

/-- Typing keys does nothing, or it records them and whether they were accepted. -/
theorem send_ensures (property : Episode → Prop) {episode : Episode} {keys : List UInt8}
    (here : property episode)
    (sent : episode.failed = false → ∀ accepted,
      property { episode with lastSent := keys, failed := !accepted }) :
    (episode.send keys).Ensures property := by
  unfold send
  split
  · exact here
  · next able =>
    simp only [Bool.or_eq_true, not_or, Bool.not_eq_true] at able
    intro accepted
    exact sent able.1 accepted

section Waits

variable {property : Episode → Frame → Prop} {episode : Episode} {frame : Frame} {session : Session}

theorem ReadingKeeps.drawing (keeps : ReadingKeeps property) (limits : FrameLimits) (elapsed : Nat)
    (here : property episode frame) (present : episode.session = some session) (chunk : List UInt8) :
    property (drawing limits elapsed session chunk episode frame).episode
      (drawing limits elapsed session chunk episode frame).frame := by
  have received := keeps.receive _ _ _ chunk elapsed here present
  have located : property (episode.seeing session chunk) (frame.hearing session chunk elapsed) :=
    keeps.locate _ _ _ received
  unfold Episode.drawing
  dsimp only
  cases (episode.seeing session chunk).isRedrawn _ _ with
  | true =>
      rw [Bool.or_true]
      exact keeps.ready _ _ located
  | false =>
      rw [Bool.or_false]
      exact located

theorem wait_ensures (keeps : ReadingKeeps property) (limits : FrameLimits) (begun : Nat)
    (here : property episode frame) (present : episode.session = some session) :
    (wait limits begun session episode frame).Ensures fun waited =>
      property waited.episode waited.frame := by
  rw [wait, ensures_bind, Play.ensures_poll]
  rintro ⟨output, time⟩
  cases output with
  | none => exact here
  | some chunk =>
      have received := keeps.receive _ _ _ chunk (time - begun) here present
      cases shown : Prompt.detect (session.receive chunk).2 with
      | some prompt =>
          simp only [shown, ensures_bind]
          refine send_ensures (fun answered => property answered _) received ?_
          intro able accepted
          exact keeps.send _ _ prompt.reply accepted received able
      | none =>
          simp only [shown]
          exact keeps.drawing limits (time - begun) here present chunk

theorem readOutput_ensures (keeps : ReadingKeeps property) (limits : FrameLimits) (begun polls : Nat)
    (here : property episode frame) :
    (readOutput limits begun polls episode frame).Ensures fun result =>
      property result.1 result.2 := by
  induction polls generalizing episode frame with
  | zero => trivial
  | succ polls induction =>
      cases current : episode.session with
      | none =>
          rw [readOutput_absent current]
          exact here
      | some session =>
          rw [readOutput_eq_wait current, ensures_bind]
          refine (wait_ensures keeps limits begun here current).mono fun waited kept => ?_
          split
          · exact kept
          · exact induction kept

end Waits

/-! ## Counting a frame -/

theorem timesRedraws_countFrame {episode : Episode} (times : episode.tally.TimesRedraws)
    (longRunning : Bool) (frame : Frame) :
    (episode.countFrame longRunning frame).tally.TimesRedraws := by
  obtain ⟨unstepped, -, ready_le⟩ := times
  constructor
  · intro (none_taken : episode.tally.steps = 0)
    have untimed : (decide (1 ≤ episode.tally.steps) && !longRunning) = false := by simp [none_taken]
    simp only [countFrame, untimed]
    exact unstepped none_taken
  · exact fun none_read => absurd none_read (Nat.succ_ne_zero _)
  · have still_le : episode.tally.slowestReady ≤ max episode.tally.slowestRedraw frame.redrawTime :=
      Nat.le_trans ready_le (Nat.le_max_left _ _)
    dsimp only [countFrame]
    -- A complete redraw is timed only if redraws are timed at all.
    cases decide (1 ≤ episode.tally.steps) && !longRunning with
    | false => exact ready_le
    | true =>
        cases frame.ready with
        | false => exact still_le
        | true => exact Nat.max_le.mpr ⟨still_le, Nat.le_max_right _ _⟩

/-! ## The play is left alone -/

/-- The episode without what reading a frame may change. -/
def besideReading (episode : Episode) : Episode :=
  { episode with
    session := none
    avatar := none
    ready := false
    lastSent := []
    failed := false
    tally := { episode.tally with frames := 0, slowestRedraw := 0, slowestReady := 0 } }

/-- Nothing but what reading a frame may change differs; typing that has failed stays failed. -/
structure OnlyReads (before after : Episode) : Prop where
  /-- Everything else is the same. -/
  beside_eq : after.besideReading = before.besideReading
  /-- There still is a session if there was one. -/
  session_isSome : after.session.isSome = before.session.isSome
  /-- Failed typing is not forgotten. -/
  failed_of_failed : before.failed = true → after.failed = true
  /-- The redraw times go on agreeing with the other counters. -/
  times_of_times : before.tally.TimesRedraws → after.tally.TimesRedraws

namespace OnlyReads

variable {before between after : Episode}

theorem refl (episode : Episode) : OnlyReads episode episode := ⟨rfl, rfl, id, id⟩

theorem trans (first : OnlyReads before between) (second : OnlyReads between after) :
    OnlyReads before after where
  beside_eq := second.beside_eq.trans first.beside_eq
  session_isSome := second.session_isSome.trans first.session_isSome
  failed_of_failed := second.failed_of_failed ∘ first.failed_of_failed
  times_of_times := second.times_of_times ∘ first.times_of_times

theorem snapshot_eq (reads : OnlyReads before after) : after.snapshot = before.snapshot :=
  (congrArg Episode.snapshot reads.beside_eq :)

theorem map_eq (reads : OnlyReads before after) : after.map = before.map :=
  (congrArg Episode.map reads.beside_eq :)

theorem phase_eq (reads : OnlyReads before after) : after.phase = before.phase :=
  (congrArg Episode.phase reads.beside_eq :)

theorem score_eq (reads : OnlyReads before after) : after.tally.score = before.tally.score :=
  (congrArg (fun episode => episode.tally.score) reads.beside_eq :)

end OnlyReads

/-- The play is left alone, and without output the screen is, too. -/
def ReadsOn (before : Episode) (frame : Frame) (after : Episode) (longer : Frame) : Prop :=
  OnlyReads before after ∧
    (longer.hasOutput = false → frame.hasOutput = false ∧ after.session = before.session)

theorem readsOn_reading (before : Episode) (frame : Frame) :
    ReadingKeeps (ReadsOn before frame) where
  receive episode frame session chunk elapsed here present := by
    refine ⟨here.1.trans ⟨rfl, ?_, id, id⟩, fun silent => nomatch silent⟩
    rw [present]
    rfl
  send episode frame keys accepted here able := by
    refine ⟨here.1.trans ⟨rfl, rfl, ?_, id⟩, here.2⟩
    intro failed
    rw [able] at failed
    contradiction
  locate episode frame screen here := by
    unfold locateAvatar
    split
    · exact here
    · exact ⟨here.1.trans ⟨rfl, rfl, id, id⟩, here.2⟩
  ready episode frame here := here

theorem readFrame_ensures (polls : Nat) (episode : Episode) :
    (readFrame polls episode).Ensures fun result =>
      OnlyReads episode result.1 ∧ (result.2 = none → result.1.session = episode.session) := by
  simp only [readFrame, ensures_bind, Play.ensures_clock]
  intro begun
  have start : ReadsOn episode {} episode {} := ⟨.refl episode, fun _ => ⟨rfl, rfl⟩⟩
  refine (readOutput_ensures (readsOn_reading episode {}) _ begun polls start).mono ?_
  rintro ⟨after, frame⟩ ⟨reads, silent⟩
  split
  · refine ⟨reads.trans ⟨rfl, rfl, id, fun times => timesRedraws_countFrame times _ frame⟩, ?_⟩
    rintro ⟨⟩
  · next quiet =>
    exact ⟨reads.trans ⟨rfl, rfl, id, id⟩, fun _ => (silent (Bool.eq_false_iff.mpr quiet)).2⟩

/-! ## Advancing by a frame -/

theorem tally_takeSnapshot (episode : Episode) (frame : Frame) :
    (episode.takeSnapshot frame).1.tally = episode.tally := by
  unfold takeSnapshot
  split <;> rfl

/-- What one frame can make of an episode, with its reward. -/
inductive Advances (before : Episode) : Episode × Int → Prop where
  /-- Nothing was received. -/
  | silent {after : Episode} (reads : OnlyReads before after)
    (session_eq : after.session = before.session) : Advances before (after, 0)
  /-- What was received is evaluated. -/
  | evaluated {after : Episode} (reads : OnlyReads before after) (frame : Frame) :
    Advances before (after.takeSnapshot frame)

/-- Reading without output before a frame makes no difference to what the frame can make. -/
theorem Advances.after_reading {before between : Episode} {result : Episode × Int}
    (reads : OnlyReads before between) (session_eq : between.session = before.session)
    (advances : Advances between result) : Advances before result := by
  cases advances with
  | silent later later_eq => exact .silent (reads.trans later) (later_eq.trans session_eq)
  | evaluated later frame => exact .evaluated (reads.trans later) frame

theorem advance_ensures (polls : Nat) (episode : Episode) :
    (advance polls episode).Ensures (Advances episode) := by
  simp only [advance, ensures_bind]
  refine (readFrame_ensures polls episode).mono ?_
  rintro ⟨after, frame?⟩ ⟨reads, silent⟩
  cases frame? with
  | none => exact .silent reads (silent rfl)
  | some frame => exact .evaluated reads frame

end Episode

end RoguePilot
