import RoguePilot.Proofs.Dialogue.Hosts
import RoguePilot.Proofs.Play.Hearing
import RoguePilot.Proofs.Text.Search

/-!
# Answering prompts

The prompts in a frame are answered in the order in which their chunks come: a chunk that shows one is
answered by the reply of the first prompt in the table that it shows, at once, and until keys are refused.
But every chunk is looked at by itself, so a prompt whose marker is cut by the bound between two chunks
goes unanswered, even though it is in the text of the frame.
-/

namespace RoguePilot

open Dialogue

namespace Prompt

/-- The replies that texts call for, in their order. -/
def replies (texts : List (List Char)) : List (List UInt8) :=
  texts.filterMap fun text => (detect text).map Prompt.reply

variable {texts : List (List Char)} {text : List Char}

/-- A text without a reply shows none of the prompts. -/
theorem detect_eq_none_iff : detect text = none ↔ ∀ prompt ∈ table, prompt.isIn text = false := by
  simp only [detect, List.find?_eq_none, Bool.not_eq_true]

theorem detect_isSome_iff : (detect text).isSome = true ↔ ∃ prompt ∈ table, prompt.isIn text = true :=
  List.find?_isSome

/-- There is something to reply just when some text shows a prompt. -/
theorem exists_mem_replies_iff :
    (∃ reply, reply ∈ replies texts) ↔ ∃ text ∈ texts, ∃ prompt ∈ table, prompt.isIn text = true := by
  constructor
  · rintro ⟨reply, member⟩
    obtain ⟨text, text_member, reply_eq⟩ := List.mem_filterMap.mp member
    obtain ⟨prompt, shown, -⟩ := Option.map_eq_some_iff.mp reply_eq
    exact ⟨text, text_member, detect_isSome_iff.mp (Option.isSome_of_eq_some shown)⟩
  · rintro ⟨text, text_member, shown⟩
    obtain ⟨prompt, first⟩ := Option.isSome_iff_exists.mp (detect_isSome_iff.mpr shown)
    exact ⟨prompt.reply, List.mem_filterMap.mpr ⟨text, text_member, Option.map_eq_some_iff.mpr
      ⟨prompt, first, rfl⟩⟩⟩

end Prompt

namespace Play

/-- The keys that were typed by an event, and whether they were accepted. -/
def attempt? : Event → Option (List UInt8 × Bool)
  | ⟨.write keys, accepted⟩ => some (keys, accepted)
  | _ => none

/-- The keys that were typed by events, in their order, and whether they were accepted. -/
def attempts (events : List Event) : List (List UInt8 × Bool) :=
  events.filterMap attempt?

variable {past : List Event}

theorem attempts_append (past later : List Event) :
    attempts (past ++ later) = attempts past ++ attempts later :=
  List.filterMap_append

@[simp] theorem attempts_poll {milliseconds : Nat} {reading : Reading} :
    attempts (past ++ [⟨.poll milliseconds, reading⟩]) = attempts past := by
  rw [attempts_append]
  exact List.append_nil _

@[simp] theorem attempts_write {keys : List UInt8} {accepted : Bool} :
    attempts (past ++ [⟨.write keys, accepted⟩]) = attempts past ++ [(keys, accepted)] :=
  attempts_append _ _

theorem mem_attempts {keys : List UInt8} {accepted : Bool} {events : List Event} :
    (keys, accepted) ∈ attempts events ↔ (⟨.write keys, accepted⟩ : Event) ∈ events := by
  rw [attempts, List.mem_filterMap]
  constructor
  · rintro ⟨⟨request, answer⟩, member, attempt_eq⟩
    cases request with
    | write typed =>
        cases attempt_eq
        exact member
    | _ => cases attempt_eq
  · exact fun member => ⟨_, member, rfl⟩

/-- Replies that are called for are typed in their order, up to the first that is refused. -/
inductive Answers : List (List UInt8) → List (List UInt8 × Bool) → (failed : Bool) → Prop where
  /-- All of them were accepted. -/
  | all (replies : List (List UInt8)) : Answers replies (replies.map (·, true)) false
  /-- One was refused, and those after it were not typed any more. -/
  | refused (accepted : List (List UInt8)) (reply : List UInt8) (skipped : List (List UInt8)) :
      Answers (accepted ++ reply :: skipped) (accepted.map (·, true) ++ [(reply, false)]) true

namespace Answers

variable {replies : List (List UInt8)} {typed : List (List UInt8 × Bool)}

theorem next (answers : Answers replies typed false) (reply : List UInt8) (accepted : Bool) :
    Answers (replies ++ [reply]) (typed ++ [(reply, accepted)]) (!accepted) := by
  cases answers with
  | all =>
      cases accepted with
      | false => exact .refused replies reply []
      | true =>
          have all := Answers.all (replies ++ [reply])
          rw [List.map_append] at all
          exact all

theorem skip (answers : Answers replies typed true) (reply : List UInt8) :
    Answers (replies ++ [reply]) typed true := by
  cases answers with
  | refused accepted refused skipped =>
      rw [List.append_assoc, List.cons_append]
      exact .refused accepted refused _

/-- If no keys were refused, all replies were typed. -/
theorem typed_eq {failed : Bool} (answers : Answers replies typed failed)
    (able : ∀ keys, (keys, false) ∉ typed) : typed = replies.map (·, true) := by
  cases answers with
  | all => rfl
  | refused accepted reply skipped => exact absurd List.mem_concat_self (able reply)

end Answers

section Replies

variable {session : Session} {received : List (List UInt8)} {chunk : List UInt8} {prompt : Prompt}

/-- One more chunk that shows a prompt calls for its reply. -/
theorem replies_texts_of_shown
    (shown : Prompt.detect ((session.receiveAll received).1.receive chunk).2 = some prompt) :
    Prompt.replies (session.texts (received ++ [chunk])) =
      Prompt.replies (session.texts received) ++ [prompt.reply] := by
  rw [Session.texts_append, Prompt.replies, List.filterMap_append]
  simp [Prompt.replies, Session.texts, shown]

/-- One more chunk that shows no prompt calls for nothing. -/
theorem replies_texts_of_none
    (unprompted : Prompt.detect ((session.receiveAll received).1.receive chunk).2 = none) :
    Prompt.replies (session.texts (received ++ [chunk])) = Prompt.replies (session.texts received) := by
  rw [Session.texts_append, Prompt.replies, List.filterMap_append]
  simp [Prompt.replies, Session.texts, unprompted]

end Replies

/-- Whatever is typed is the next reply that the chunks call for, with no other one left out. -/
def AnswersInTurn (session : Session) : Rule := fun past request =>
  ∀ answer, ∃ failed,
    Answers (Prompt.replies (session.texts (chunks past))) (attempts (past ++ [⟨request, answer⟩])) failed

end Play

namespace Episode

open Play

variable {limits : FrameLimits} {begun polls : Nat} {episode : Episode} {session : Session}
  {frame : Frame} {past : List Event}

/-- The prompts that were heard have been answered. -/
structure Answered (session : Session) (events : List Event) (episode : Episode) (frame : Frame) :
    Prop extends Hears session events episode frame where
  /-- The replies were typed, unless one was refused. -/
  answers : Answers (Prompt.replies (session.texts (chunks events))) (attempts events) episode.failed

/-- With every prompt answered, anything but typing may be asked. -/
theorem Answered.asks (answered : Answered session past episode frame) (milliseconds : Nat) :
    AnswersInTurn session past (.poll milliseconds) := by
  intro (reading : Reading)
  refine ⟨episode.failed, ?_⟩
  rw [attempts_poll]
  exact answered.answers

/-- The reply to a prompt that was just heard is typed in its turn. -/
theorem Answered.replies {current : Session} (answered : Answered session past episode frame)
    (present : episode.session = some current) {chunk : List UInt8} {prompt : Prompt}
    (shown : Prompt.detect (current.receive chunk).2 = some prompt)
    (milliseconds time elapsed : Nat) :
    Obeys (AnswersInTurn session)
      (fun later replied => Answered session later replied (frame.hearing current chunk elapsed))
      (past ++ [⟨.poll milliseconds, (⟨some chunk, time⟩ : Reading)⟩])
      ((episode.hearing current chunk).send prompt.reply) := by
  have heard := answered.toHears.output present milliseconds time elapsed chunk
  have answers := answered.answers
  obtain rfl := answered.toHears.current_eq present
  have called := replies_texts_of_shown shown
  refine obeys_send ?_ ?_
  · rintro (failed | absent)
    · have failed : episode.failed = true := failed
      rw [failed] at answers
      refine ⟨heard, ?_⟩
      rw [chunks_output, attempts_poll, called, show (episode.hearing _ chunk).failed = true from failed]
      exact answers.skip prompt.reply
    · cases absent
  · intro _ able _
    have able : episode.failed = false := able
    rw [able] at answers
    have typed (accepted : Bool) :
        Answers
          (Prompt.replies (session.texts (chunks (past ++ [⟨.poll milliseconds, ⟨some chunk, time⟩⟩]))))
          (attempts (past ++ [⟨.poll milliseconds, ⟨some chunk, time⟩⟩] ++
            [⟨.write prompt.reply, accepted⟩])) (!accepted) := by
      rw [chunks_output, attempts_write, attempts_poll, called]
      exact answers.next prompt.reply accepted
    refine ⟨fun (accepted : Bool) => ⟨_, typed accepted⟩, fun accepted => ?_⟩
    refine ⟨(heard.write prompt.reply accepted).of_eq rfl rfl rfl, ?_⟩
    rw [chunks_write]
    exact typed accepted

/-- A wait leaves no prompt unanswered that it hears, unless keys were refused. -/
theorem wait_answers {current : Session} (answered : Answered session past episode frame)
    (present : episode.session = some current) :
    Obeys (AnswersInTurn session)
      (fun later waited => Answered session later waited.episode waited.frame) past
      (wait limits begun current episode frame) := by
  refine wait_obeys (answered.asks _) ?_ ?_ ?_
  · intro time
    refine ⟨answered.toHears.silence _ _, ?_⟩
    rw [chunks_silence, attempts_poll]
    exact answered.answers
  · intro chunk time prompt shown
    exact answered.replies present shown limits.pause time (time - begun)
  · intro chunk time unprompted
    have heard := answered.toHears.output present limits.pause time (time - begun) chunk
    obtain rfl := answered.toHears.current_eq present
    refine ⟨heard.of_eq (session_seeing _ _ _) rfl rfl, ?_⟩
    rw [chunks_output, attempts_poll, replies_texts_of_none unprompted]
    change Answers _ _ (episode.seeing _ chunk).failed
    rw [failed_seeing]
    exact answered.answers

/-- A frame that is read with a session answers the prompts in its chunks, unless keys are refused. -/
theorem readFrame_answers (polls : Nat) (present : episode.session = some session)
    (able : episode.failed = false) :
    Obeys (AnswersInTurn session)
      (fun later result => Answers (Prompt.replies (session.texts (chunks later))) (attempts later)
        result.1.failed) [] (readFrame polls episode) := by
  have none_typed (time : Nat) : Answers [] [] episode.failed := by
    rw [able]
    exact .all []
  have begins (time : Nat) : Answered session ([] ++ [⟨.clock, time⟩]) episode {} :=
    ⟨⟨present, rfl, rfl⟩, none_typed time⟩
  refine (readFrame_obeys_of_kept _ (fun time => ⟨_, none_typed time⟩) (fun begun => wait_answers) rfl
    begins).mono ?_
  rintro later result ⟨after, frame, answered, closes⟩
  rw [closes.failed_eq]
  exact answered.answers

/--
While a frame is read with a session that takes keys, whatever arrives and whatever is refused, nothing is
typed but the replies that the texts of its chunks call for, in their order and each once, up to the first
that is refused. Nothing else is asked before they have been typed, even if the frame never ends. When it
ends as ready, its last chunk shows no prompt.
-/
theorem prompts_answered_in_turn (polls : Nat) (present : episode.session = some session)
    (able : episode.failed = false) :
    (∀ earlier event later, Begins (readFrame polls episode) (earlier ++ event :: later) →
      ∃ failed, Answers (Prompt.replies (session.texts (chunks earlier)))
        (attempts (earlier ++ [event])) failed) ∧
    ∀ events after frame?, Runs (readFrame polls episode) events (after, frame?) →
      Answers (Prompt.replies (session.texts (chunks events))) (attempts events) after.failed ∧
        (after.ready = true → ∃ earlier last, session.texts (chunks events) = earlier ++ [last] ∧
          ∀ prompt ∈ Prompt.table, prompt.isIn last = false) := by
  have answers := readFrame_answers polls present able
  constructor
  · rintro earlier ⟨request, answer⟩ later begins
    exact answers.of_begins begins answer
  · intro events after frame? run
    refine ⟨answers.of_runs run, fun ready => ?_⟩
    have comprehends : Comprehends session events (after, frame?) :=
      (readFrame_comprehends polls present).of_runs run
    obtain ⟨last, last_eq, unprompted⟩ := (comprehends.ready_iff.mp ready).unprompted
    obtain ⟨earlier, texts_eq⟩ := List.getLast?_eq_some_iff.mp last_eq
    exact ⟨earlier, last, texts_eq, Prompt.detect_eq_none_iff.mp unprompted⟩

/-- A small game that has just been started. -/
def listening : Episode :=
  (create Rehearsal.hasty).opened

/-- A game with output to show that refuses the typings with the given numbers. -/
def showing (output : List String) (refusals : List Nat) : Rehearsal.Stage :=
  { Rehearsal.Stage.of [] with
    current := some ⟨output.map fun text => some (Keys.ofText text), [], refusals, true, 0⟩ }

/-- After a reply was refused no other one is typed. -/
theorem prompts_answered_until_refusal :
    ∃ session events after frame?, listening.session = some session ∧ listening.failed = false ∧
      Runs (readFrame 4 listening) events (after, frame?) ∧ after.failed = true ∧
      attempts events = [(Keys.space, true), (Keys.ofText "n", false)] ∧
      Answers (Prompt.replies (session.texts (chunks events))) (attempts events) after.failed := by
  let stage := showing ["You hit.--more--", "Really? (y/n)", "--more--"] [1]
  have seen : ((run Rehearsal.host (readFrame 4 listening) stage).1.map fun result => result.1.failed) =
      some true := by decide +kernel
  have typed : attempts (transcript Rehearsal.host (readFrame 4 listening) stage) =
      [(Keys.space, true), (Keys.ofText "n", false)] := by decide +kernel
  obtain ⟨⟨after, frame?⟩, yields, failed⟩ := Option.map_eq_some_iff.mp seen
  have run := runs_transcript yields
  exact ⟨_, _, after, frame?, rfl, rfl, run, failed, typed,
    ((prompts_answered_in_turn 4 rfl rfl).2 _ after frame? run).1⟩

/-! ## Prompts that are cut -/

/-- What a text shows is also shown by any longer one. -/
theorem isIn_of_infix {prompt : Prompt} {text longer : List Char} (within : text <:+: longer)
    (shown : prompt.isIn text = true) : prompt.isIn longer = true := by
  obtain ⟨before, after, rfl⟩ := within
  simp only [Prompt.isIn, Text.occursAny, List.any_eq_true] at shown ⊢
  obtain ⟨marker, member, found⟩ := shown
  exact ⟨marker, member, Text.occurs_append_right _ (Text.occurs_append_left _ found)⟩

/--
In a frame in which no keys are refused a prompt is answered just when the text of some chunk shows one by
itself, which the text of the frame then does, too. The text of the frame is that of its chunks one after the
other, so it may show a prompt across the bound between two chunks; such a prompt is not seen.
-/
theorem prompt_answered_iff_in_chunk {polls : Nat} {events : List Event} {after : Episode} {frame : Frame}
    (present : episode.session = some session) (able : episode.failed = false)
    (run : Runs (readFrame polls episode) events (after, some frame))
    (accepted : ∀ keys, (⟨.write keys, false⟩ : Event) ∉ events) :
    frame.text = (session.texts (chunks events)).flatten ∧
      ((∃ keys, (⟨.write keys, true⟩ : Event) ∈ events) ↔
        ∃ text ∈ session.texts (chunks events), ∃ prompt ∈ Prompt.table, prompt.isIn text = true) ∧
      ((∃ keys, (⟨.write keys, true⟩ : Event) ∈ events) →
        ∃ prompt ∈ Prompt.table, prompt.isIn frame.text = true) := by
  have comprehends : Comprehends session events (after, some frame) :=
    (readFrame_comprehends polls present).of_runs run
  have text_eq : frame.text = (session.texts (chunks events)).flatten := by
    rw [Session.flatten_texts]
    exact comprehends.text_eq frame rfl
  have answers : Answers (Prompt.replies (session.texts (chunks events))) (attempts events) after.failed :=
    (readFrame_answers polls present able).of_runs run
  have typed_eq := answers.typed_eq fun keys member => accepted keys (mem_attempts.mp member)
  have typed_iff : (∃ keys, (⟨.write keys, true⟩ : Event) ∈ events) ↔
      ∃ text ∈ session.texts (chunks events), ∃ prompt ∈ Prompt.table, prompt.isIn text = true := by
    simp only [← mem_attempts, typed_eq, List.mem_map, Prod.mk.injEq, and_true, exists_eq_right]
    exact Prompt.exists_mem_replies_iff
  refine ⟨text_eq, typed_iff, fun typed => ?_⟩
  obtain ⟨text, member, prompt, listed, shown⟩ := typed_iff.mp typed
  refine ⟨prompt, listed, isIn_of_infix ?_ shown⟩
  rw [text_eq]
  exact List.infix_of_mem_flatten member

/-- A prompt within one chunk is answered, and the text of the frame shows it. -/
theorem prompt_answered_within_chunk :
    ∃ session events after frame, listening.session = some session ∧ listening.failed = false ∧
      Runs (readFrame 3 listening) events (after, some frame) ∧
      (∀ keys, (⟨.write keys, false⟩ : Event) ∉ events) ∧
      (∃ keys, (⟨.write keys, true⟩ : Event) ∈ events) ∧
      ∃ prompt ∈ Prompt.table, prompt.isIn frame.text = true := by
  let stage := showing ["You hit.", "--more--"] []
  have seen : ((run Rehearsal.host (readFrame 3 listening) stage).1.bind fun result => result.2).isSome =
      true := by decide +kernel
  have typed : attempts (transcript Rehearsal.host (readFrame 3 listening) stage) =
      [(Keys.space, true)] := by decide +kernel
  obtain ⟨frame, frame_eq⟩ := Option.isSome_iff_exists.mp seen
  obtain ⟨⟨after, _⟩, yields, rfl⟩ := Option.bind_eq_some_iff.mp frame_eq
  have run := runs_transcript yields
  have accepted (keys : List UInt8) : (⟨.write keys, false⟩ : Event) ∉ transcript Rehearsal.host
      (readFrame 3 listening) stage := by
    rw [← mem_attempts, typed]
    simp
  have answered : (⟨.write Keys.space, true⟩ : Event) ∈ transcript Rehearsal.host
      (readFrame 3 listening) stage := by
    rw [← mem_attempts, typed]
    exact List.mem_singleton_self _
  have shown := (prompt_answered_iff_in_chunk rfl rfl run accepted).2.2 ⟨_, answered⟩
  exact ⟨_, _, after, frame, rfl, rfl, run, accepted, ⟨_, answered⟩, shown⟩

/-- A prompt that is cut by the bound between two chunks is in the text of the frame, but is not answered. -/
theorem cut_prompt_unanswered :
    ∃ session events after frame, listening.session = some session ∧ listening.failed = false ∧
      Runs (readFrame 3 listening) events (after, some frame) ∧
      (∃ prompt ∈ Prompt.table, prompt.isIn frame.text = true) ∧
      ∀ keys (accepted : Bool), (⟨.write keys, accepted⟩ : Event) ∉ events := by
  let stage := showing ["--mo", "re--"] []
  have seen : ((run Rehearsal.host (readFrame 3 listening) stage).1.bind fun result =>
      result.2.map Frame.text) = some "--more--".toList := by decide +kernel
  have typed : attempts (transcript Rehearsal.host (readFrame 3 listening) stage) = [] := by
    decide +kernel
  obtain ⟨⟨after, frame?⟩, yields, shown_eq⟩ := Option.bind_eq_some_iff.mp seen
  obtain ⟨frame, rfl, text_eq⟩ := Option.map_eq_some_iff.mp shown_eq
  have shown : ∃ prompt ∈ Prompt.table, prompt.isIn frame.text = true := by
    rw [text_eq]
    decide
  refine ⟨_, _, after, frame, rfl, rfl, runs_transcript yields, shown, fun keys (accepted : Bool) => ?_⟩
  intro member
  have attempted := mem_attempts.mpr member
  rw [typed] at attempted
  cases attempted

end Episode

end RoguePilot
