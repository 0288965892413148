import RoguePilot.Proofs.Play.Reading
import RoguePilot.Proofs.Play.Replay
import RoguePilot.Proofs.Play.Waiting

/-!
# What is heard in a frame

The session, the text of a frame and whether it ends as complete depend on nothing but the chunks that were
read for it, however long the waits for them were and whatever was typed in between.
-/

namespace RoguePilot

open Dialogue

namespace Session

/-- The texts that chunks are read as, one for each. -/
def texts (session : Session) : List (List UInt8) → List (List Char)
  | [] => []
  | chunk :: chunks => (session.receive chunk).2 :: (session.receive chunk).1.texts chunks

variable {session : Session}

theorem texts_append (left right : List (List UInt8)) :
    session.texts (left ++ right) =
      session.texts left ++ (session.receiveAll left).1.texts right := by
  induction left generalizing session with
  | nil => rfl
  | cons chunk left induction => exact congrArg (_ :: ·) induction

theorem flatten_texts (chunks : List (List UInt8)) :
    (session.texts chunks).flatten = (session.receiveAll chunks).2 := by
  induction chunks generalizing session with
  | nil => rfl
  | cons chunk chunks induction => exact congrArg (_ ++ ·) induction

end Session

namespace Play

variable {past : List Event} {session : Session} {milliseconds time : Nat} {chunk : List UInt8}

theorem chunks_append (past later : List Event) : chunks (past ++ later) = chunks past ++ chunks later :=
  List.filterMap_append

@[simp] theorem chunks_silence :
    chunks (past ++ [⟨.poll milliseconds, (⟨none, time⟩ : Reading)⟩]) = chunks past := by
  rw [chunks_append]
  exact List.append_nil _

@[simp] theorem chunks_output :
    chunks (past ++ [⟨.poll milliseconds, (⟨some chunk, time⟩ : Reading)⟩]) = chunks past ++ [chunk] :=
  chunks_append _ _

@[simp] theorem chunks_write {keys : List UInt8} {accepted : Bool} :
    chunks (past ++ [⟨.write keys, accepted⟩]) = chunks past := by
  rw [chunks_append]
  exact List.append_nil _

end Play

namespace Episode

open Play

variable {limits : FrameLimits} {begun time : Nat} {episode : Episode} {session : Session} {frame : Frame}
  {past : List Event} {chunk : List UInt8}

/-! ## What is heard -/

/-- A session, the text of a frame and whether there is any are what comes of the chunks of events. -/
structure Hears (session : Session) (events : List Event) (episode : Episode) (frame : Frame) :
    Prop where
  /-- The session has received the chunks. -/
  session_eq : episode.session = some (session.receiveAll (chunks events)).1
  /-- The text is that of the chunks. -/
  text_eq : frame.text = (session.receiveAll (chunks events)).2
  /-- There is output if there is a chunk. -/
  hasOutput_eq : frame.hasOutput = !(chunks events).isEmpty

/--
Chunks end as a complete redraw does: the last one shows no prompt, and a view is drawn up to its footer, or
the cursor is parked on the avatar.
-/
structure EndsRedraw (session : Session) (chunks : List (List UInt8)) (avatar : Option Position) :
    Prop where
  /-- The last chunk shows no prompt. -/
  unprompted : ∃ last ∈ (session.texts chunks).getLast?, Prompt.detect last = none
  /-- A view is complete, or the cursor is parked. -/
  redrawn : View.isComplete (session.receiveAll chunks).2 = true ∨
    ∃ place ∈ avatar,
      isParked (session.receiveAll chunks).1 (session.receiveAll chunks).2 place = true

theorem isRedrawn_iff {text : List Char} :
    episode.isRedrawn session text = true ↔
      View.isComplete text = true ∨ ∃ place ∈ episode.avatar, isParked session text place = true := by
  rw [isRedrawn, Bool.or_eq_true, or_comm]
  cases episode.avatar with
  | none => simp
  | some place => simp

namespace Hears

variable {current : Session}

theorem current_eq (hears : Hears session past episode frame)
    (present : episode.session = some current) : current = (session.receiveAll (chunks past)).1 :=
  Option.some.inj (present.symm.trans hears.session_eq)

theorem silence (hears : Hears session past episode frame) (milliseconds time : Nat) :
    Hears session (past ++ [⟨.poll milliseconds, (⟨none, time⟩ : Reading)⟩]) episode frame := by
  constructor
  all_goals rw [chunks_silence]
  · exact hears.session_eq
  · exact hears.text_eq
  · exact hears.hasOutput_eq

theorem output (hears : Hears session past episode frame) (present : episode.session = some current)
    (milliseconds time elapsed : Nat) (chunk : List UInt8) :
    Hears session (past ++ [⟨.poll milliseconds, (⟨some chunk, time⟩ : Reading)⟩])
      (episode.hearing current chunk) (frame.hearing current chunk elapsed) := by
  obtain rfl := hears.current_eq present
  constructor
  all_goals rw [chunks_output]
  · rw [Session.receiveAll_append]
    rfl
  · rw [Session.receiveAll_append, ← hears.text_eq]
    exact congrArg _ (List.append_nil _).symm
  · simp [Frame.hearing, Frame.add]

theorem of_eq {after : Episode} {longer : Frame} (hears : Hears session past episode frame)
    (session_eq : after.session = episode.session) (text_eq : longer.text = frame.text)
    (hasOutput_eq : longer.hasOutput = frame.hasOutput) : Hears session past after longer where
  session_eq := session_eq.trans hears.session_eq
  text_eq := text_eq.trans hears.text_eq
  hasOutput_eq := hasOutput_eq.trans hears.hasOutput_eq

theorem write (hears : Hears session past episode frame) (keys : List UInt8) (accepted : Bool) :
    Hears session (past ++ [⟨.write keys, accepted⟩]) episode frame := by
  constructor
  all_goals rw [chunks_write]
  · exact hears.session_eq
  · exact hears.text_eq
  · exact hears.hasOutput_eq

end Hears

section Redraws

variable {chunks : List (List UInt8)} {avatar : Option Position}

theorem endsRedraw_concat :
    EndsRedraw session (chunks ++ [chunk]) avatar ↔
      Prompt.detect ((session.receiveAll chunks).1.receive chunk).2 = none ∧
        (View.isComplete (session.receiveAll (chunks ++ [chunk])).2 = true ∨
          ∃ place ∈ avatar,
            isParked (session.receiveAll (chunks ++ [chunk])).1
              (session.receiveAll (chunks ++ [chunk])).2 place = true) := by
  have last_eq : (session.texts (chunks ++ [chunk])).getLast? =
      some ((session.receiveAll chunks).1.receive chunk).2 := by
    rw [Session.texts_append]
    exact List.getLast?_concat
  constructor
  · rintro ⟨⟨last, member, unprompted⟩, redrawn⟩
    rw [last_eq, Option.mem_some] at member
    exact ⟨member ▸ unprompted, redrawn⟩
  · rintro ⟨unprompted, redrawn⟩
    exact ⟨⟨_, last_eq, unprompted⟩, redrawn⟩

theorem not_endsRedraw_nil : ¬ EndsRedraw session [] avatar := by
  rintro ⟨⟨last, member, -⟩, -⟩
  exact nomatch member

end Redraws

/-! ## When the redraw is complete -/

/-- Before a wait the redraw is not complete. -/
structure Expects (session : Session) (events : List Event) (episode : Episode) (frame : Frame) :
    Prop extends Hears session events episode frame where
  /-- The frame is not taken to be complete. -/
  unready : frame.ready = false
  /-- It is not complete. -/
  goesOn : ¬ EndsRedraw session (chunks events) episode.avatar

/-- After a wait the frame is taken to be complete just when the redraw is. -/
structure Judges (session : Session) (events : List Event) (episode : Episode) (frame : Frame) :
    Prop extends Hears session events episode frame where
  /-- The frame is taken to be complete just when it is. -/
  ready_iff : frame.ready = true ↔ EndsRedraw session (chunks events) episode.avatar

theorem Expects.judges (expects : Expects session past episode frame) :
    Judges session past episode frame where
  toHears := expects.toHears
  ready_iff := by
    rw [expects.unready]
    exact iff_of_false Bool.false_ne_true expects.goesOn

theorem Expects.leads {waited : Waited} (expects : Expects session past waited.episode waited.frame) :
    waited.Leads (Expects session) (Judges session) past :=
  Waited.leads_of_forall Expects.judges expects

/-- After a chunk without a prompt the redraw is complete just when it is found to be. -/
theorem isRedrawn_iff_endsRedraw {located : Episode} {longer : Frame} {milliseconds : Nat}
    (heard : Hears session (past ++ [⟨.poll milliseconds, (⟨some chunk, time⟩ : Reading)⟩]) located
      longer)
    (unprompted : Prompt.detect ((session.receiveAll (Play.chunks past)).1.receive chunk).2 = none) :
    located.isRedrawn ((session.receiveAll (Play.chunks past)).1.receive chunk).1 longer.text = true ↔
      EndsRedraw session
        (Play.chunks (past ++ [⟨.poll milliseconds, (⟨some chunk, time⟩ : Reading)⟩]))
        located.avatar := by
  have received : (session.receiveAll (Play.chunks past ++ [chunk])).1 =
      ((session.receiveAll (Play.chunks past)).1.receive chunk).1 := by
    rw [Session.receiveAll_append]
    rfl
  rw [heard.text_eq, chunks_output, isRedrawn_iff, endsRedraw_concat, received]
  exact (and_iff_right unprompted).symm

/-- A chunk without a prompt ends the frame if the redraw is complete, and only then is the frame ready. -/
theorem drawing_leads {current : Session} (elapsed milliseconds time : Nat)
    (expects : Expects session past episode frame) (present : episode.session = some current)
    (unprompted : Prompt.detect (current.receive chunk).2 = none) :
    (drawing limits elapsed current chunk episode frame).Leads (Expects session) (Judges session)
      (past ++ [⟨.poll milliseconds, (⟨some chunk, time⟩ : Reading)⟩]) := by
  have heard := expects.toHears.output present milliseconds time elapsed chunk
  obtain rfl := expects.toHears.current_eq present
  have located : Hears session _ (episode.seeing _ chunk) (frame.hearing _ chunk elapsed) :=
    heard.of_eq (session_seeing _ _ _) rfl rfl
  have redrawn_iff := isRedrawn_iff_endsRedraw located unprompted
  have unready : (frame.hearing (session.receiveAll (Play.chunks past)).1 chunk elapsed).ready = false :=
    expects.unready
  unfold Waited.Leads drawing
  dsimp only
  rw [unready, Bool.false_or]
  split
  · exact ⟨located.of_eq rfl rfl rfl, redrawn_iff⟩
  · next unfinished =>
    rw [Bool.or_eq_true, not_or] at unfinished
    exact ⟨located.of_eq rfl rfl rfl, Bool.eq_false_iff.mpr unfinished.1,
      mt redrawn_iff.mpr unfinished.1⟩

/-- A wait after which the frame goes on leaves it incomplete, and after the last one it is judged rightly. -/
theorem wait_judges {current : Session} (expects : Expects session past episode frame)
    (present : episode.session = some current) :
    Obeys anything (fun later waited => waited.Leads (Expects session) (Judges session) later) past
      (wait limits begun current episode frame) := by
  obtain rfl := expects.toHears.current_eq present
  refine wait_obeys trivial ?_ ?_ ?_
  · intro time
    refine Expects.leads ⟨expects.toHears.silence _ _, expects.unready, ?_⟩
    rw [chunks_silence]
    exact expects.goesOn
  · intro chunk time prompt shown
    have heard := expects.toHears.output present limits.pause time (time - begun) chunk
    have goesOn (avatar : Option Position) :
        ¬ EndsRedraw session (Play.chunks past ++ [chunk]) avatar := by
      rw [endsRedraw_concat, shown]
      exact fun ends => nomatch ends.1
    refine obeys_send ?_ ?_
    · intro _
      refine Expects.leads ⟨heard, expects.unready, ?_⟩
      rw [chunks_output]
      exact goesOn _
    · refine fun _ _ _ => ⟨trivial, fun accepted => ?_⟩
      refine Expects.leads ⟨(heard.write prompt.reply accepted).of_eq rfl rfl rfl, expects.unready, ?_⟩
      rw [chunks_write, chunks_output]
      exact goesOn _
  · intro chunk time unprompted
    exact drawing_leads _ _ _ expects present unprompted

/-- What a frame comes to is told by the chunks that were read for it. -/
structure Comprehends (session : Session) (events : List Event) (result : Episode × Option Frame) :
    Prop where
  /-- The session has received the chunks. -/
  session_eq : result.1.session = some (session.receiveAll (chunks events)).1
  /-- The frame has their text. -/
  text_eq : ∀ frame ∈ result.2, frame.text = (session.receiveAll (chunks events)).2
  /-- There is a frame if there is a chunk. -/
  isSome_eq : result.2.isSome = !(chunks events).isEmpty
  /-- The frame ends as ready just when the redraw is complete. -/
  ready_iff : result.1.ready = true ↔ EndsRedraw session (chunks events) result.1.avatar

theorem Judges.comprehends {after : Episode} {result : Episode × Option Frame}
    (judges : Judges session past after frame) (closes : Closes after frame result) :
    Comprehends session past result where
  session_eq := closes.session_eq.trans judges.session_eq
  text_eq := by
    rw [closes.frame_eq]
    split
    · rintro _ ⟨⟩
      exact judges.text_eq
    · exact fun _ absent => nomatch absent
  isSome_eq := by
    rw [closes.frame_eq, ← judges.hasOutput_eq]
    cases frame.hasOutput with
    | true => rfl
    | false => rfl
  ready_iff := by
    rw [closes.ready_eq, closes.avatar_eq]
    exact judges.ready_iff

/-- A frame that is read with a session is told by its chunks. -/
theorem readFrame_comprehends (polls : Nat) (present : episode.session = some session) :
    Obeys anything (Comprehends session) [] (readFrame polls episode) := by
  have begins (time : Nat) : Expects session ([] ++ [⟨.clock, time⟩]) episode {} :=
    ⟨⟨present, rfl, rfl⟩, rfl, not_endsRedraw_nil⟩
  refine (readFrame_obeys_of_wait trivial (fun expects absent => ?_) (fun begun => wait_judges) rfl
    begins).mono ?_
  · exact nomatch expects.session_eq.symm.trans absent
  rintro later result ⟨after, frame, judges, closes⟩
  exact judges.comprehends closes

/-- Without a session nothing is waited for. -/
theorem readFrame_absent {events : List Event} {polls : Nat} {result : Episode × Option Frame}
    (absent : episode.session = none) (run : Runs (readFrame polls episode) events result) :
    (∃ time, events = [⟨.clock, time⟩]) ∧ Closes episode {} result := by
  rw [readFrame_eq] at run
  obtain ⟨time, rest, rfl, started⟩ := runs_clock_bind.mp run
  obtain ⟨reading, finish, ⟨after, frame⟩, rfl, reads, ends⟩ := runs_bind_iff.mp started
  obtain ⟨rfl, rfl⟩ := runs_done_iff.mp ends
  cases polls with
  | zero => cases reads
  | succ polls =>
      rw [readOutput_absent absent] at reads
      obtain ⟨rfl, same⟩ := runs_done_iff.mp reads
      obtain ⟨rfl, rfl⟩ := Prod.mk.inj same
      exact ⟨⟨time, rfl⟩, closes_closing _ _ _⟩

end Episode

end RoguePilot
