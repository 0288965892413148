import RoguePilot.Proofs.Game.Ending
import RoguePilot.Proofs.Play.Course
import RoguePilot.Proofs.Play.Reading
import RoguePilot.Proofs.Play.Standing

/-!
# What has been seen of a game

What an episode knows about its game can be told from the outside, from what it has exchanged: output
goes to the session of the game that was launched last, looking at the clock begins a new frame, and a
frame without output does not count. The snapshot is what comes of the frames of that game. Neither keys
nor the bounds between calls matter.
-/

namespace RoguePilot

open Dialogue

namespace Play

/-- What has been seen of a game since it was launched. -/
structure Viewing where
  /-- The session that has received all of its output. -/
  session : Session
  /-- The frames before the last one. -/
  earlier : List Glimpse := []
  /-- The output of the last frame. -/
  output : List Char := []
  /-- There is some. -/
  hasOutput : Bool := false

namespace Viewing

/-- All frames with output. -/
def glimpses (viewing : Viewing) : List Glimpse :=
  if viewing.hasOutput then viewing.earlier ++ [⟨viewing.session.screen, viewing.output⟩]
  else viewing.earlier

/-- Output belongs to the last frame. -/
def receive (viewing : Viewing) (chunk : List UInt8) : Viewing :=
  { viewing with
    session := (viewing.session.receive chunk).1
    output := viewing.output ++ (viewing.session.receive chunk).2
    hasOutput := true }

/-- What has been seen after one more event. -/
def note (viewing : Viewing) : Event → Viewing
  | ⟨.launch size, _⟩ => { session := .start size }
  | ⟨.poll _, reading⟩ =>
    match Reading.chunk reading with
    | some chunk => viewing.receive chunk
    | none => viewing
  | ⟨.clock, _⟩ => { session := viewing.session, earlier := viewing.glimpses }
  | _ => viewing

end Viewing

/-- What has been seen of the game that was launched last; nothing before the first launch. -/
def view (events : List Event) : Viewing :=
  events.foldl Viewing.note { session := .start default }

@[simp] theorem view_concat (past : List Event) (event : Event) :
    view (past ++ [event]) = (view past).note event := by
  simp [view]

@[simp] theorem note_write (viewing : Viewing) (keys : List UInt8) (accepted : Bool) :
    viewing.note ⟨.write keys, accepted⟩ = viewing := rfl

@[simp] theorem note_isRunning (viewing : Viewing) (running : Bool) :
    viewing.note ⟨.isRunning, running⟩ = viewing := rfl

@[simp] theorem note_terminate (viewing : Viewing) (milliseconds : Nat) (stopped : Unit) :
    viewing.note ⟨.terminate milliseconds, stopped⟩ = viewing := rfl

end Play

namespace Episode

open Play

/-- The episode knows what has been seen of its game. -/
structure Follows (viewing : Viewing) (episode : Episode) : Prop where
  /-- The snapshot is what comes of the frames. -/
  snapshot_eq : episode.snapshot = .ofGlimpses viewing.glimpses
  /-- A session there is has received the same output. -/
  session_eq : ∀ session, episode.session = some session → viewing.session = session

/-- The episode reads a frame after the earlier ones. -/
structure Attends (earlier : List Glimpse) (viewing : Viewing) (episode : Episode)
    (frame : Frame) : Prop where
  /-- The frame has not been evaluated yet. -/
  snapshot_eq : episode.snapshot = .ofGlimpses earlier
  /-- A session there is has received the same output. -/
  session_eq : ∀ session, episode.session = some session → viewing.session = session
  /-- Output comes from a session. -/
  present : frame.hasOutput = true → episode.session.isSome = true
  /-- The frame is the last one that was seen. -/
  frame_eq : viewing.earlier = earlier ∧ viewing.output = frame.text ∧
    viewing.hasOutput = frame.hasOutput

variable {past : List Event} {episode before after : Episode} {earlier : List Glimpse}
  {viewing : Viewing} {frame : Frame}

/-! ## Reading a frame -/

theorem Attends.of_eq (attends : Attends earlier viewing before frame)
    (snapshot_eq : after.snapshot = before.snapshot) (session_eq : after.session = before.session) :
    Attends earlier viewing after frame where
  snapshot_eq := snapshot_eq.trans attends.snapshot_eq
  session_eq session here := attends.session_eq session (session_eq.symm.trans here)
  present output := by
    rw [session_eq]
    exact attends.present output
  frame_eq := attends.frame_eq

theorem Attends.receive (attends : Attends earlier viewing episode frame) {session : Session}
    (present : episode.session = some session) (chunk : List UInt8) (elapsed : Nat) :
    Attends earlier (viewing.receive chunk)
      { episode with session := some (session.receive chunk).1 }
      (frame.add (session.receive chunk).2 elapsed) := by
  obtain rfl := attends.session_eq session present
  obtain ⟨earlier_eq, output_eq, -⟩ := attends.frame_eq
  refine ⟨attends.snapshot_eq, ?_, fun _ => rfl, earlier_eq, ?_, rfl⟩
  · rintro received ⟨⟩
    rfl
  · exact congrArg (· ++ _) output_eq

theorem send_views (past : List Event) (episode : Episode) (keys : List UInt8) :
    Obeys anything (fun later sent => view later = view past ∧ sent.snapshot = episode.snapshot ∧
      sent.session = episode.session) past (episode.send keys) := by
  refine obeys_send (fun _ => ⟨rfl, rfl, rfl⟩) fun _ _ _ => ⟨trivial, fun accepted => ?_⟩
  rw [view_concat, note_write]
  exact ⟨rfl, rfl, rfl⟩

/-- A wait adds its output to the frame and to what has been seen alike. -/
theorem wait_attends {limits : FrameLimits} {begun : Nat} {session : Session}
    (attends : Attends earlier (view past) episode frame) (present : episode.session = some session) :
    Obeys anything (fun later waited => Attends earlier (view later) waited.episode waited.frame) past
      (wait limits begun session episode frame) := by
  have heard (chunk : List UInt8) (time : Nat) :
      Attends earlier (view (past ++ [⟨.poll limits.pause, (⟨some chunk, time⟩ : Reading)⟩]))
        (episode.hearing session chunk) (frame.hearing session chunk (time - begun)) := by
    rw [view_concat]
    exact attends.receive present chunk (time - begun)
  refine wait_obeys trivial ?_ ?_ ?_
  · intro time
    rw [view_concat]
    exact attends
  · intro chunk time prompt _
    refine (send_views _ _ prompt.reply).mono ?_
    rintro later answered ⟨same, snapshot_eq, session_eq⟩
    rw [same]
    exact (heard chunk time).of_eq snapshot_eq session_eq
  · intro chunk time _
    have located : Attends earlier _ (episode.seeing session chunk) _ :=
      (heard chunk time).of_eq (snapshot_locateAvatar _ _) (session_locateAvatar _ _)
    exact ⟨located.snapshot_eq, located.session_eq, located.present, located.frame_eq⟩

theorem readFrame_attends (polls : Nat) (follows : Follows (view past) episode) :
    Obeys anything (fun later result => ∃ frame,
      Attends (view past).glimpses (view later) result.1 frame ∧
        result.2 = if frame.hasOutput then some frame else none) past
      (readFrame polls episode) := by
  have begins (time : Nat) :
      Attends (view past).glimpses (view (past ++ [⟨.clock, time⟩])) episode {} := by
    rw [view_concat]
    refine ⟨follows.snapshot_eq, follows.session_eq, fun output => ?_, rfl, rfl, rfl⟩
    contradiction
  have attended : Obeys anything _ past (readFrame polls episode) :=
    readFrame_obeys_of_kept (fun later => Attends (view past).glimpses (view later)) trivial
      (fun begun => wait_attends) rfl begins
  refine (attended.and_ensures (readFrame_ensures polls episode)).mono ?_
  rintro later result ⟨⟨after, frame, attends, closes⟩, reads, -⟩
  have snapshot_eq : result.1.snapshot = after.snapshot :=
    reads.snapshot_eq.trans (follows.snapshot_eq.trans attends.snapshot_eq.symm)
  exact ⟨frame, attends.of_eq snapshot_eq closes.session_eq, closes.frame_eq⟩

/-! ## Evaluating a frame -/

theorem snapshot_takeSnapshot {session : Session} (present : episode.session = some session)
    (frame : Frame) :
    (episode.takeSnapshot frame).1.snapshot =
      episode.snapshot.seeing ⟨session.screen, frame.text⟩ := by
  simp only [takeSnapshot, present]
  rfl

theorem Attends.evaluated (attends : Attends earlier viewing episode frame)
    (output : frame.hasOutput = true) :
    Follows viewing (episode.takeSnapshot frame).1 ∧
      ∃ glimpse, viewing.glimpses = earlier ++ [glimpse] := by
  obtain ⟨session, present⟩ := Option.isSome_iff_exists.mp (attends.present output)
  obtain ⟨earlier_eq, output_eq, hasOutput_eq⟩ := attends.frame_eq
  have glimpses_eq : viewing.glimpses = earlier ++ [⟨session.screen, frame.text⟩] := by
    rw [Viewing.glimpses, hasOutput_eq, if_pos output, earlier_eq, output_eq,
      attends.session_eq session present]
  refine ⟨⟨?_, ?_⟩, _, glimpses_eq⟩
  · rw [snapshot_takeSnapshot present, glimpses_eq, Snapshot.ofGlimpses_concat,
      attends.snapshot_eq]
  · rw [session_takeSnapshot]
    exact attends.session_eq

theorem Attends.silent (attends : Attends earlier viewing episode frame)
    (silence : frame.hasOutput = false) :
    Follows viewing episode ∧ viewing.glimpses = earlier := by
  obtain ⟨earlier_eq, -, hasOutput_eq⟩ := attends.frame_eq
  have glimpses_eq : viewing.glimpses = earlier := by
    rw [Viewing.glimpses, hasOutput_eq, silence, if_neg Bool.false_ne_true, earlier_eq]
  refine ⟨⟨?_, attends.session_eq⟩, glimpses_eq⟩
  rw [glimpses_eq]
  exact attends.snapshot_eq

theorem advance_follows (polls : Nat) (follows : Follows (view past) episode) :
    Obeys anything (fun later result => Follows (view later) result.1 ∧ ∃ glimpse? : Option Glimpse,
      (view later).glimpses = (view past).glimpses ++ glimpse?.toList) past
      (advance polls episode) := by
  rw [advance, obeys_bind]
  refine (readFrame_attends polls follows).mono ?_
  rintro later ⟨after, frame?⟩ ⟨frame, attends, rfl⟩
  cases output : frame.hasOutput with
  | true =>
      obtain ⟨still, glimpse, glimpses_eq⟩ := attends.evaluated output
      exact ⟨still, some glimpse, glimpses_eq⟩
  | false =>
      obtain ⟨still, glimpses_eq⟩ := attends.silent output
      exact ⟨still, none, glimpses_eq.trans (List.append_nil _).symm⟩

/-! ## Calls -/

theorem Follows.of_eq (follows : Follows viewing before)
    (snapshot_eq : after.snapshot = before.snapshot) (session_eq : after.session = before.session) :
    Follows viewing after where
  snapshot_eq := snapshot_eq.trans follows.snapshot_eq
  session_eq session here := follows.session_eq session (session_eq.symm.trans here)

theorem close_follows (follows : Follows (view past) episode) :
    Obeys anything (fun later closed => Follows (view later) closed ∧
      (view later).glimpses = (view past).glimpses) past episode.close := by
  have closed {later : List Event} (same : view later = view past) :
      Follows (view later) { episode with session := none } ∧
        (view later).glimpses = (view past).glimpses := by
    rw [same]
    refine ⟨⟨follows.snapshot_eq, fun session present => ?_⟩, rfl⟩
    contradiction
  unfold close
  split
  · exact ⟨follows, rfl⟩
  · rw [obeys_bind, obeys_isRunning]
    refine ⟨trivial, fun running => ?_⟩
    split
    · rw [obeys_bind]
      refine ⟨trivial, fun (accepted : Bool) => ⟨trivial, fun (stopped : Unit) => ?_⟩⟩
      exact closed (by simp only [view_concat, note_isRunning, note_write, note_terminate])
    · rw [obeys_bind, obeys_terminate]
      refine ⟨trivial, fun stopped => ?_⟩
      exact closed (by simp only [view_concat, note_isRunning, note_terminate])

theorem view_command {event : Event} (command : isCommand event.1 = true) :
    view (past ++ [event]) = view past := by
  rw [view_concat]
  obtain ⟨request, answer⟩ := event
  cases request with
  | write keys => rfl
  | isRunning => rfl
  | terminate milliseconds => rfl
  | _ => cases command

/-- An episode goes on following its game, and begins to follow every new one. -/
theorem courseKeeps_follows : CourseKeeps fun past episode => Follows (view past) episode where
  of_eq follows session_eq _ snapshot_eq := follows.of_eq snapshot_eq session_eq
  command event command follows := by
    rw [view_command command]
    exact follows
  advance polls follows := (advance_follows polls follows).mono fun _ _ there => there.1
  closed follows := ⟨follows.snapshot_eq, fun _ absent => nomatch absent⟩
  launched past episode := by
    rw [view_concat]
    refine ⟨rfl, ?_⟩
    rintro session ⟨⟩
    rfl
  refused past episode := by
    -- Even a launch that fails makes the episode forget the game before.
    rw [view_concat]
    exact ⟨rfl, fun _ absent => nomatch absent⟩

/-- Whatever has happened before, an episode that is started follows its new game. -/
theorem reset_follows (past : List Event) (polls : Nat) (episode : Episode) :
    Obeys anything (fun later result => Follows (view later) result.1) past
      (episode.reset polls) :=
  courseKeeps_follows.reset past polls episode

/-- A step sees one frame at most, and none unless the episode is played. -/
theorem step_follows (polls : Nat) (action : List UInt8) (follows : Follows (view past) episode) :
    Obeys anything (fun later result => Follows (view later) result.1 ∧ ∃ glimpse? : Option Glimpse,
      (view later).glimpses = (view past).glimpses ++ glimpse?.toList ∧
        (episode.phase ≠ .playing → glimpse? = none)) past
      (episode.step polls action) := by
  by_cases playing : episode.phase = .playing
  · unfold step
    split
    · exact ⟨follows, none, (List.append_nil _).symm, fun _ => rfl⟩
    · have counted : Follows (view past) episode.countStep := follows.of_eq rfl rfl
      rw [obeys_bind]
      refine (send_views past episode.countStep action).mono ?_
      rintro sent_past sent ⟨same, snapshot_eq, session_eq⟩
      have still := counted.of_eq snapshot_eq session_eq
      rw [← same] at still ⊢
      dsimp only
      split
      · exact ⟨still.of_eq rfl rfl, none, (List.append_nil _).symm, fun _ => rfl⟩
      · rw [obeys_bind]
        refine (advance_follows polls still).mono ?_
        rintro later ⟨after, reward⟩ ⟨there, glimpse?, glimpses_eq⟩
        exact ⟨there.of_eq rfl rfl, glimpse?, glimpses_eq, absurd playing⟩
  · rw [step_of_not_playing playing]
    exact ⟨follows, none, (List.append_nil _).symm, fun _ => rfl⟩

end Episode

end RoguePilot
