import RoguePilot.Proofs.Play.Hearing

/-!
# Every frame ends

A frame goes on as long as the game keeps drawing or keeps asking, but never beyond its limits: with every
chunk the time since its start is compared with one of them, and with every wait that brings nothing with
the other one. So it ends if only the clock goes on, however the game answers and whatever it is told.
-/

namespace RoguePilot

open Dialogue

namespace Play

/-- What a wait for output brought, if an event was one. -/
def reading? : Event → Option Reading
  | ⟨.poll _, reading⟩ => some reading
  | _ => none

/-- What the waits for output among events brought, in their order. -/
def readings (events : List Event) : List Reading :=
  events.filterMap reading?

theorem readings_append (past later : List Event) :
    readings (past ++ later) = readings past ++ readings later :=
  List.filterMap_append

theorem chunks_eq_readings (events : List Event) :
    chunks events = (readings events).filterMap Reading.chunk := by
  rw [chunks, readings, List.filterMap_filterMap]
  congr 1
  funext event
  obtain ⟨request, answer⟩ := event
  cases request with
  | poll milliseconds => rfl
  | _ => rfl

section

variable {State α β : Type} {host : Host signature State} {state middle after : State}
  {program : Program α} {value : α} {brought later : List Reading}

/-- Under the host the program comes to its end, and its waits for output bring these readings. -/
structure ComesTo (host : Host signature State) (program : Program α) (state : State) (value : α)
    (after : State) (brought : List Reading) : Prop where
  /-- What it comes to. -/
  run_eq : run host program state = (some value, after)
  /-- What the waits bring. -/
  readings_eq : readings (transcript host program state) = brought

theorem comesTo_done : ComesTo host (Dialogue.done value) state value state [] := ⟨rfl, rfl⟩

theorem comesTo_write (host : Host signature State) (keys : List UInt8) (state : State) :
    ComesTo host (write keys) state (host.respond (.write keys) state).1
      (host.respond (.write keys) state).2 [] := ⟨rfl, rfl⟩

theorem comesTo_clock (host : Host signature State) (state : State) :
    ComesTo host clock state (host.respond .clock state).1 (host.respond .clock state).2 [] :=
  ⟨rfl, rfl⟩

theorem comesTo_poll (host : Host signature State) (milliseconds : Nat) (state : State) :
    ComesTo host (poll milliseconds) state (host.respond (.poll milliseconds) state).1
      (host.respond (.poll milliseconds) state).2
      [(host.respond (.poll milliseconds) state).1] := ⟨rfl, rfl⟩

theorem ComesTo.bind {next : α → Program β} {result : β}
    (first : ComesTo host program state value middle brought)
    (rest : ComesTo host (next value) middle result after later) :
    ComesTo host (program >>= next) state result after (brought ++ later) where
  run_eq := by
    rw [run_bind, first.run_eq]
    exact rest.run_eq
  readings_eq := by
    rw [transcript_bind first.run_eq, readings_append, first.readings_eq, rest.readings_eq]

/-- The readings of the program are those of the sequence, as far as it waits for them. -/
def Brings (host : Host signature State) (sequence : Nat → Reading) (program : Program α)
    (state : State) : Prop :=
  ∀ number reading, (readings (transcript host program state))[number]? = some reading →
    reading = sequence number

/-- The readings of a program that goes on with another begin with its own. -/
theorem Brings.of_bind {sequence : Nat → Reading} {next : α → Program β}
    (brings : Brings host sequence (program >>= next) state) : Brings host sequence program state := by
  intro number reading reading_eq
  obtain ⟨rest, rest_eq⟩ := transcript_prefix_bind host program next state
  refine brings number reading ?_
  obtain ⟨within, -⟩ := List.getElem?_eq_some_iff.mp reading_eq
  rw [← rest_eq, readings_append, List.getElem?_append_left within]
  exact reading_eq

end

end Play

open Play

namespace FrameLimits

/-- A reading ends the frame because of the time at which it came. -/
def isReached (limits : FrameLimits) (begun : Nat) (reading : Reading) : Bool :=
  match reading.chunk with
  | some _ => limits.total ≤ reading.clock - begun
  | none => limits.quiet ≤ reading.clock - begun

variable {limits : FrameLimits} {begun : Nat} {reading : Reading}

theorem isReached_iff_of_some {chunk : List UInt8} (output : reading.chunk = some chunk) :
    limits.isReached begun reading = true ↔ limits.total ≤ reading.clock - begun := by
  rw [isReached, output]
  exact decide_eq_true_iff

theorem isReached_iff_of_none (nothing : reading.chunk = none) :
    limits.isReached begun reading = true ↔ limits.quiet ≤ reading.clock - begun := by
  rw [isReached, nothing]
  exact decide_eq_true_iff

theorem isReached_of_le (total : limits.total ≤ reading.clock - begun)
    (quiet : limits.quiet ≤ reading.clock - begun) : limits.isReached begun reading = true := by
  cases output : reading.chunk with
  | none => exact (isReached_iff_of_none output).mpr quiet
  | some chunk => exact (isReached_iff_of_some output).mpr total

end FrameLimits

namespace Episode

variable {State : Type} {host : Host signature State} {state : State} {limits : FrameLimits}
  {begun : Nat} {episode : Episode} {session : Session} {frame : Frame}

theorem send_comesTo (host : Host signature State) (state : State) (episode : Episode)
    (keys : List UInt8) :
    ∃ sent after, ComesTo host (episode.send keys) state sent after [] ∧
      sent.session = episode.session := by
  unfold send
  split
  · exact ⟨_, _, comesTo_done, rfl⟩
  · exact ⟨_, _, (comesTo_write host keys state).bind comesTo_done, rfl⟩

/-- What one wait comes to, and whether it is the last one. -/
structure Ends (limits : FrameLimits) (begun : Nat) (reading : Reading) (waited : Waited) : Prop where
  /-- There still is a session. -/
  present : ∃ session, waited.episode.session = some session
  /-- A limit that is reached ends the frame. -/
  isOver : limits.isReached begun reading = true → waited.isOver = true
  /-- Nothing else does but a complete redraw. -/
  cause : waited.isOver = true → limits.isReached begun reading = true ∨ waited.frame.ready = true

/-- A chunk without a prompt ends the frame if its limit is reached, or else by completing the redraw. -/
theorem drawing_ends (limits : FrameLimits) (begun time : Nat) (session : Session) (chunk : List UInt8)
    (episode : Episode) (frame : Frame) :
    Ends limits begun ⟨some chunk, time⟩
      (drawing limits (time - begun) session chunk episode frame) := by
  refine ⟨⟨_, session_seeing _ _ _⟩, ?_, ?_⟩
  · intro reached
    exact Bool.or_eq_true_iff.mpr (.inr reached)
  · intro ended
    obtain redrawn | reached := Bool.or_eq_true_iff.mp ended
    · exact .inr (Bool.or_eq_true_iff.mpr (.inr redrawn))
    · exact .inl reached

/-- Whatever it brings, a wait comes to its end. -/
theorem wait_comesTo (host : Host signature State) (state : State) (limits : FrameLimits)
    (begun : Nat) (frame : Frame) (present : episode.session = some session) :
    ∃ reading waited after,
      ComesTo host (wait limits begun session episode frame) state waited after [reading] ∧
        Ends limits begun reading waited := by
  have polled := comesTo_poll host limits.pause state
  generalize (host.respond (.poll limits.pause) state).1 = reading at polled
  generalize (host.respond (.poll limits.pause) state).2 = middle at polled
  obtain ⟨output, time⟩ : Reading := reading
  cases output with
  | none =>
      have silent : Ends limits begun ⟨none, time⟩
          ⟨episode, frame, decide (limits.quiet ≤ time - begun)⟩ := ⟨⟨session, present⟩, id, .inl⟩
      exact ⟨_, _, _, polled.bind comesTo_done, silent⟩
  | some chunk =>
      cases shown : Prompt.detect (session.receive chunk).2 with
      | some prompt =>
          obtain ⟨sent, after, sends, session_eq⟩ :=
            send_comesTo host middle (episode.hearing session chunk) prompt.reply
          have answered : Ends limits begun ⟨some chunk, time⟩
              ⟨sent, frame.hearing session chunk (time - begun),
                decide (limits.total ≤ time - begun)⟩ := ⟨⟨_, session_eq⟩, id, .inl⟩
          refine ⟨_, _, after, polled.bind ?_, answered⟩
          simp only [shown]
          exact sends.bind comesTo_done
      | none =>
          refine ⟨_, _, middle, polled.bind ?_, drawing_ends limits begun time session chunk episode frame⟩
          simp only [shown]
          exact comesTo_done

/-! ## All waits of a frame -/

section Reading

variable {sequence : Nat → Reading} {middle : State} {waited : Waited} {reading : Reading}

/-- What the waits bring is what the first one brings and then the others. -/
theorem readings_readOutput (present : episode.session = some session)
    (waits : ComesTo host (wait limits begun session episode frame) state waited middle [reading])
    (polls : Nat) :
    readings (transcript host (readOutput limits begun (polls + 1) episode frame) state) =
      reading :: readings (transcript host
        (if waited.isOver then pure (waited.episode, waited.frame)
          else readOutput limits begun polls waited.episode waited.frame) middle) := by
  rw [readOutput_eq_wait present, transcript_bind waits.run_eq, readings_append, waits.readings_eq]
  rfl

/-- The reading at which a frame ends, and why. -/
structure Stops (limits : FrameLimits) (begun : Nat) (sequence : Nat → Reading) (last : Nat)
    (frame : Frame) : Prop where
  /-- No limit was reached before. -/
  first : ∀ number, limits.isReached begun (sequence number) = true → last ≤ number
  /-- A limit is reached, or the redraw is complete. -/
  cause : limits.isReached begun (sequence last) = true ∨ frame.ready = true

theorem Stops.later {last : Nat} (unreached : limits.isReached begun (sequence 0) ≠ true)
    (stops : Stops limits begun (fun number => sequence (number + 1)) last frame) :
    Stops limits begun sequence (last + 1) frame where
  first number reached := by
    cases number with
    | zero => exact absurd reached unreached
    | succ number => exact Nat.succ_le_succ (stops.first number reached)
  cause := stops.cause

/-- Without any patience for silence, the first wait that brings nothing is the last one at the latest. -/
theorem Stops.eq_or_lt_of_impatient {last number : Nat} (stops : Stops limits begun sequence last frame)
    (impatient : limits.quiet = 0) (nothing : (sequence number).chunk = none)
    (first : ∀ earlier < number, (sequence earlier).chunk ≠ none) :
    last = number ∨ last < number ∧
      (frame.ready = true ∨ limits.total ≤ (sequence last).clock - begun) := by
  have quiet : limits.quiet ≤ (sequence number).clock - begun := by
    rw [impatient]
    exact Nat.zero_le _
  have within := stops.first number ((FrameLimits.isReached_iff_of_none nothing).mpr quiet)
  obtain before | same := Nat.lt_or_eq_of_le within
  · obtain ⟨chunk, output⟩ := Option.ne_none_iff_exists'.mp (first last before)
    exact .inr ⟨before, stops.cause.symm.imp_right (FrameLimits.isReached_iff_of_some output).mp⟩
  · exact .inl same

/-- The first wait brings the first reading. -/
theorem reading_eq_of_brings (present : episode.session = some session)
    (waits : ComesTo host (wait limits begun session episode frame) state waited middle [reading])
    (brings : ∀ polls, Brings host sequence (readOutput limits begun polls episode frame) state) :
    reading = sequence 0 := by
  refine brings 1 0 reading ?_
  rw [readings_readOutput present waits]
  rfl

/-- If the first wait does not end the frame, the others bring the readings after the first. -/
theorem brings_of_goesOn (present : episode.session = some session)
    (waits : ComesTo host (wait limits begun session episode frame) state waited middle [reading])
    (goesOn : waited.isOver ≠ true)
    (brings : ∀ polls, Brings host sequence (readOutput limits begun polls episode frame) state)
    (polls : Nat) :
    Brings host (fun number => sequence (number + 1))
      (readOutput limits begun polls waited.episode waited.frame) middle := by
  intro number next next_eq
  refine brings (polls + 1) (number + 1) next ?_
  rw [readings_readOutput present waits, if_neg goesOn]
  exact next_eq

/-- If a limit is reached some time, reading comes to its end, and by then at the latest. -/
theorem readOutput_stops {distance : Nat}
    (reached : limits.isReached begun (sequence distance) = true)
    (present : episode.session = some session)
    (brings : ∀ polls, Brings host sequence (readOutput limits begun polls episode frame) state) :
    ∃ last after longer final, Stops limits begun sequence last longer ∧
      ∀ polls, last < polls →
        ComesTo host (readOutput limits begun polls episode frame) state (after, longer) final
          ((List.range (last + 1)).map sequence) := by
  -- The induction is on how far away the limit is: every wait that does not end the frame brings it nearer.
  induction distance using Nat.strongRecOn generalizing sequence state episode session frame with
  | ind distance induction =>
      obtain ⟨reading, waited, middle, waits, ends⟩ :=
        wait_comesTo host state limits begun frame present
      obtain rfl := reading_eq_of_brings present waits brings
      by_cases ended : waited.isOver = true
      · refine ⟨0, waited.episode, waited.frame, middle,
          ⟨fun number _ => Nat.zero_le number, ends.cause ended⟩, fun polls positive => ?_⟩
        obtain ⟨polls, rfl⟩ := Nat.exists_eq_add_one.mpr positive
        rw [readOutput_eq_wait present]
        refine waits.bind ?_
        rw [if_pos ended]
        exact comesTo_done
      · have unreached : limits.isReached begun (sequence 0) ≠ true := mt ends.isOver ended
        obtain ⟨distance, rfl⟩ : ∃ nearer, distance = nearer + 1 := by
          refine Nat.exists_eq_succ_of_ne_zero ?_
          rintro rfl
          exact unreached reached
        obtain ⟨next, next_eq⟩ := ends.present
        obtain ⟨last, after, longer, final, stops, comes⟩ :=
          induction distance (Nat.lt_succ_self _) reached next_eq
            (brings_of_goesOn present waits ended brings)
        refine ⟨last + 1, after, longer, final, stops.later unreached, fun polls more => ?_⟩
        obtain ⟨polls, rfl⟩ := Nat.exists_eq_add_one.mpr (Nat.zero_lt_of_lt more)
        rw [readOutput_eq_wait present, List.range_succ_eq_map, List.map_cons, List.map_map]
        refine waits.bind ?_
        rw [if_neg ended]
        exact comes polls (Nat.lt_of_succ_lt_succ more)

end Reading

/-! ## A whole frame -/

section Frames

variable {sequence : Nat → Reading}

/-- If a limit is reached some time, the frame comes to its end, and by then at the latest. -/
theorem readFrame_stops {distance : Nat}
    (reached : episode.frameLimits.isReached (host.respond .clock state).1 (sequence distance) = true)
    (present : episode.session = some session)
    (brings : ∀ polls, Brings host sequence (readFrame polls episode) state) :
    ∃ last after frame final,
      Stops episode.frameLimits (host.respond .clock state).1 sequence last frame ∧
      ∀ polls, last < polls →
        ComesTo host (readFrame polls episode) state (episode.closing after frame) final
          ((List.range (last + 1)).map sequence) := by
  have reads (polls : Nat) :
      Brings host sequence
        (readOutput episode.frameLimits (host.respond .clock state).1 polls episode {})
        (host.respond .clock state).2 := by
    have whole := brings polls
    rw [readFrame_eq] at whole
    exact Brings.of_bind whole
  obtain ⟨last, after, frame, final, stops, comes⟩ := readOutput_stops reached present reads
  refine ⟨last, after, frame, final, stops, fun polls more => ?_⟩
  rw [readFrame_eq, ← List.append_nil (List.map sequence _)]
  exact (comesTo_clock host state).bind ((comes polls more).bind comesTo_done)

/--
A frame ends if only the clock goes on. Let a host, whatever it does with what is typed, bring the readings of
a sequence as far as they are waited for. If the time since the start of the frame never goes back in it, and
reaches both limits some time, there is a last reading, however often the frame might ask for output: the
frame comes to its end with it. It is not behind the first chunk at or after the limit for output, nor behind
the first wait that brings nothing at or after the limit for silence; if it is neither of them, then the frame
is ready. All chunks up to it were received. If the limit for silence is zero, the last reading is the first
one that brings nothing, unless the frame was ready or had reached its limit before.
-/
theorem frame_ends_in_time (present : episode.session = some session)
    (begins : (host.respond .clock state).1 = begun)
    (brings : ∀ polls, Brings host sequence (readFrame polls episode) state)
    (goesOn : ∀ earlier later, earlier ≤ later →
      (sequence earlier).clock - begun ≤ (sequence later).clock - begun)
    (total : ∃ number, episode.frameLimits.total ≤ (sequence number).clock - begun)
    (quiet : ∃ number, episode.frameLimits.quiet ≤ (sequence number).clock - begun) :
    ∃ last after frame?,
      (∀ polls, last < polls →
        (run host (readFrame polls episode) state).1 = some (after, frame?) ∧
        readings (transcript host (readFrame polls episode) state) =
          (List.range (last + 1)).map sequence) ∧
      (∀ number, episode.frameLimits.isReached begun (sequence number) = true → last ≤ number) ∧
      (episode.frameLimits.isReached begun (sequence last) = true ∨ after.ready = true) ∧
      after.session = some (session.receiveAll
        ((List.range (last + 1)).filterMap fun number => (sequence number).chunk)).1 ∧
      (episode.frameLimits.quiet = 0 → ∀ number, (sequence number).chunk = none →
        (∀ earlier < number, (sequence earlier).chunk ≠ none) →
          last = number ∨ last < number ∧
            (after.ready = true ∨ episode.frameLimits.total ≤ (sequence last).clock - begun)) := by
  subst begins
  obtain ⟨one, total_le⟩ := total
  obtain ⟨other, quiet_le⟩ := quiet
  have reached := FrameLimits.isReached_of_le
    (Nat.le_trans total_le (goesOn one (max one other) (Nat.le_max_left one other)))
    (Nat.le_trans quiet_le (goesOn other (max one other) (Nat.le_max_right one other)))
  obtain ⟨last, after, frame, final, stops, comes⟩ := readFrame_stops reached present brings
  have closes := closes_closing episode after frame
  have cause := stops.cause
  rw [← closes.ready_eq] at cause
  have ends := comes (last + 1) (Nat.lt_succ_self last)
  have comprehends : Comprehends session _ (episode.closing after frame) :=
    (readFrame_comprehends (last + 1) present).of_runs (runs_transcript (congrArg Prod.fst ends.run_eq))
  have session_eq := comprehends.session_eq
  rw [List.nil_append, chunks_eq_readings, ends.readings_eq, List.filterMap_map] at session_eq
  refine ⟨last, (episode.closing after frame).1, (episode.closing after frame).2, ?_, stops.first, cause,
    session_eq, ?_⟩
  · intro polls more
    exact ⟨congrArg Prod.fst (comes polls more).run_eq, (comes polls more).readings_eq⟩
  · intro impatient number nothing first
    rw [closes.ready_eq]
    exact stops.eq_or_lt_of_impatient impatient nothing first

end Frames

/-- A host that brings the readings of a sequence and accepts whatever is typed. -/
def reciting (sequence : Nat → Reading) : Host signature Nat where
  respond
    | .launch _, number => (true, number)
    | .write _, number => (true, number)
    | .poll _, number => (sequence number, number + 1)
    | .clock, number => ((0 : Nat), number)
    | .isRunning, number => (true, number)
    | .terminate _, number => ((), number)

/-- Any program is brought the rest of the sequence. -/
theorem brings_reciting {α : Type} (sequence : Nat → Reading) (program : Program α) (start : Nat) :
    Brings (reciting sequence) (fun number => sequence (start + number)) program start := by
  induction program generalizing start with
  | done value => exact fun _ _ nothing => nomatch nothing
  | unfinished => exact fun _ _ nothing => nomatch nothing
  | ask request resume induction =>
      cases request with
      | poll milliseconds =>
          intro number reading reading_eq
          cases number with
          | zero => exact (Option.some.inj reading_eq).symm
          | succ number =>
              refine (induction (sequence start) (start + 1) number reading reading_eq).trans ?_
              exact congrArg sequence (Nat.add_right_comm start 1 number)
      | launch size => exact induction true start
      | write keys => exact induction true start
      | clock => exact induction (0 : Nat) start
      | isRunning => exact induction true start
      | terminate milliseconds => exact induction () start

/-- A game that asks for more every ten milliseconds, whatever it is answered. -/
def insatiable (number : Nat) : Reading :=
  ⟨some (Keys.ofText "--more--"), number * 10 * millisecond⟩

/-- A game that asks for more without end is given up after thirty seconds. -/
theorem frame_ends_in_time_insatiable :
    ∃ last ≤ 3000, ∃ after frame?, ∀ polls, last < polls →
      (run (reciting insatiable) (readFrame polls (create Play.Rehearsal.hasty).opened) 0).1 =
        some (after, frame?) := by
  have brings (polls : Nat) :
      Brings (reciting insatiable) insatiable (readFrame polls (create Play.Rehearsal.hasty).opened) 0 := by
    have recited := brings_reciting insatiable (readFrame polls (create Play.Rehearsal.hasty).opened) 0
    simpa only [Nat.zero_add] using recited
  have goesOn (earlier later : Nat) (before : earlier ≤ later) :
      (insatiable earlier).clock - 0 ≤ (insatiable later).clock - 0 :=
    Nat.mul_le_mul_right _ (Nat.mul_le_mul_right _ before)
  have begins : ((reciting insatiable).respond .clock 0).1 = (0 : Nat) := rfl
  obtain ⟨last, after, frame?, comes, first, -⟩ :=
    frame_ends_in_time rfl begins brings goesOn ⟨3000, by decide⟩ ⟨3000, by decide⟩
  exact ⟨last, first 3000 (by decide), after, frame?, fun polls more => (comes polls more).1⟩

end Episode

end RoguePilot
