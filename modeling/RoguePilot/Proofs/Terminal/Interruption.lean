import RoguePilot.Proofs.Terminal.Parameters

/-!
# Controls within a sequence

A control character or padding in the middle of a control sequence does what it does anywhere, and the
sequence goes on as if it had not been there. Since nothing else happens before the final character, all
controls within a sequence act first.
-/

namespace RoguePilot.Terminal

namespace Interpreter

/-! ## Interruptions -/

/-- The character leaves what is partly read as it is: a control other than escape, or padding. -/
def isInterruption (character : Char) : Bool :=
  isC0 character && character ≠ escapeCharacter || character = padding

/-- The interruptions of a text, in their order. -/
def interruptions (text : List Char) : List Char :=
  text.filter isInterruption

/-- The text without its interruptions. -/
def uninterrupted (text : List Char) : List Char :=
  text.filter fun character => !isInterruption character

variable {interpreter next : Interpreter} {character : Char} {text : List Char}

theorem interruptions_cons_of_pos (interrupts : isInterruption character = true) :
    interruptions (character :: text) = character :: interruptions text :=
  List.filter_cons_of_pos interrupts

theorem interruptions_cons_of_neg (goesOn : isInterruption character = false) :
    interruptions (character :: text) = interruptions text :=
  List.filter_cons_of_neg (Bool.eq_false_iff.mp goesOn)

theorem uninterrupted_cons_of_pos (interrupts : isInterruption character = true) :
    uninterrupted (character :: text) = uninterrupted text :=
  List.filter_cons_of_neg (by rw [interrupts]; exact Bool.false_ne_true)

theorem uninterrupted_cons_of_neg (goesOn : isInterruption character = false) :
    uninterrupted (character :: text) = character :: uninterrupted text :=
  List.filter_cons_of_pos (by rw [goesOn]; rfl)

theorem isInterruption_of_mem_interruptions (member : character ∈ interruptions text) :
    isInterruption character = true :=
  (List.mem_filter.mp member).2

/-- An interruption acts on the terminal only. -/
theorem feed_interruption (outside : interpreter.inString = false)
    (interrupts : isInterruption character = true) :
    interpreter.feed character = (interpreter, controlCommands character) := by
  simp only [isInterruption, Bool.or_eq_true, Bool.and_eq_true, decide_eq_true_eq] at interrupts
  rcases interrupts with ⟨control, not_escape⟩ | rfl
  · simp only [feed, control, outside, Bool.not_false, Bool.and_self, if_true, if_neg not_escape]
  · rw [feed_padding]
    rfl

theorem feedAll_all_interruptions (outside : interpreter.inString = false)
    (all : ∀ character ∈ text, isInterruption character = true) :
    interpreter.feedAll text = (interpreter, text.flatMap controlCommands) := by
  induction text with
  | nil => rfl
  | cons character text induction =>
      obtain ⟨here, later⟩ := List.forall_mem_cons.mp all
      rw [feedAll, feed_interruption outside here, induction later]
      rfl

/--
A text that would be read in silence is read on through its interruptions, as long as no string begins in
it: the only commands are those of the interruptions.
-/
theorem feedAll_interrupted
    (outside : ∀ first, first <+: uninterrupted text → (interpreter.feedAll first).1.inString = false)
    (silent : interpreter.feedAll (uninterrupted text) = (next, [])) :
    interpreter.feedAll text = (next, (interruptions text).flatMap controlCommands) := by
  induction text generalizing interpreter with
  | nil => exact silent
  | cons character text induction =>
      have outside_here : interpreter.inString = false := outside [] List.nil_prefix
      cases interrupts : isInterruption character with
      | true =>
          rw [uninterrupted_cons_of_pos interrupts] at outside silent
          rw [feedAll, feed_interruption outside_here interrupts, induction outside silent,
            interruptions_cons_of_pos interrupts]
          rfl
      | false =>
          rw [uninterrupted_cons_of_neg interrupts] at outside silent
          simp only [feedAll, Prod.mk.injEq, List.append_eq_nil_iff] at silent
          obtain ⟨next_eq, quiet, still⟩ := silent
          have outside_later : ∀ first, first <+: uninterrupted text →
              ((interpreter.feed character).1.feedAll first).1.inString = false := by
            intro first begins
            exact outside (character :: first) (List.cons_prefix_cons.mpr ⟨rfl, begins⟩)
          have rest := induction outside_later (Prod.ext next_eq still)
          rw [feedAll, rest, quiet, interruptions_cons_of_neg interrupts]
          rfl

end Interpreter

open Interpreter

/-! ## Control sequences -/

/-- Numbers between semicolons, after a question mark if the sequence is a private one. -/
def plainParameters (isPrivate : Bool) (numbers : List Char) : List Char :=
  if isPrivate then '?' :: numbers else numbers

section Plain

variable {isPrivate : Bool} {numbers : List Char}
  (plain : ∀ character ∈ numbers, character.isDigit = true ∨ character = ';')
include plain

theorem isParameter_of_mem_plainParameters :
    ∀ character ∈ plainParameters isPrivate numbers, isParameter character = true := by
  have numeric : ∀ character ∈ numbers, isParameter character = true := by
    intro character member
    rcases plain character member with digit | rfl
    · have bounds := isDigit_iff.mp digit
      simp only [isParameter, Bool.and_eq_true, decide_eq_true_eq]
      omega
    · decide
  cases isPrivate with
  | false => exact numeric
  | true => exact List.forall_mem_cons.mpr ⟨by decide, numeric⟩

theorem isArranged_plainParameters : isArranged (plainParameters isPrivate numbers) = true := by
  have numeric := isNumeric_of_plain plain
  cases numbers with
  | nil => cases isPrivate <;> rfl
  | cons first rest =>
      have not_mark := not_isMark_of_isNumeric (numeric first List.mem_cons_self)
      have not_colon : first ≠ ':' := by simpa using head?_ne_colon_of_plain plain
      have marked (marks : List Char) (all : ∀ mark ∈ marks, isMark mark = true) :
          isArranged (marks ++ first :: rest) = true :=
        (isArranged_marks_append all not_mark rest).mpr ⟨numeric, not_colon⟩
      cases isPrivate with
      | false => exact marked [] (List.forall_mem_nil _)
      | true => exact marked ['?'] (List.forall_mem_singleton.mpr (by decide))

end Plain

namespace Console

variable {console : Console} {parameters intermediates text : List Char} {final : Char}

/-- Wherever a control sequence is interrupted, the interruptions may as well come before it. -/
theorem display_interrupted (ground : console.interpreter = .ground)
    (inside : ∀ character ∈ parameters, isParameter character = true)
    (collected : ∀ character ∈ intermediates, isIntermediate character = true)
    (arranged : isArranged parameters = true) (ends : isFinal final = true)
    (spells : uninterrupted text = opening parameters intermediates) :
    console.display (text ++ [final]) =
        console.display (interruptions text ++ (opening parameters intermediates ++ [final])) ∧
      (console.display (text ++ [final])).interpreter = .ground := by
  obtain ⟨numbers, next, silent, collects⟩ := feedAll_opening_arranged inside collected arranged
  let controls := (interruptions text).flatMap controlCommands
  let actions := sequenceCommands (.ofMarks (parameters.takeWhile isMark ++ intermediates)) final
    numbers
  have finishes : next.feedAll [final] = (.ground, actions) := by
    rw [feedAll, collects.feed_final ends, feedAll_nil, List.append_nil]
  have within : feedAll .ground text = (next, controls) := by
    refine feedAll_interrupted ?_ (spells ▸ silent)
    intro first begins
    rw [spells] at begins
    obtain rfl | ⟨partly, quiet, -, outside⟩ :=
      feedAll_of_isPrefix_opening inside collected arranged begins
    · rfl
    · rw [quiet]
      exact outside
  have ahead : feedAll .ground (interruptions text) = (.ground, controls) :=
    feedAll_all_interruptions rfl fun _ => isInterruption_of_mem_interruptions
  have interrupted : console.display (text ++ [final]) =
      ⟨.ground, (console.terminal.applyAll controls).applyAll actions⟩ := by
    rw [display_append, display_of_ground ground within, display_eq_feedAll, finishes]
  have ordered :
      console.display (interruptions text ++ (opening parameters intermediates ++ [final])) =
        ⟨.ground, (console.terminal.applyAll controls).applyAll actions⟩ := by
    rw [display_append, display_of_ground ground ahead, display_append, display_of_ground rfl silent,
      display_eq_feedAll, finishes]
    rfl
  exact ⟨interrupted.trans ordered.symm, congrArg Console.interpreter interrupted⟩

/--
Controls other than escape, and padding, anywhere between the escape character and the final character of
a control sequence act as if they had come before it, and nothing is partly read afterwards.
-/
theorem controls_act_first (idle : console.interpreter.isIdle = true) (isPrivate : Bool)
    {numbers : List Char}
    (plain : ∀ character ∈ numbers, character.isDigit = true ∨ character = ';')
    (ends : isFinal final = true) {body : List Char}
    (spells : uninterrupted body = '[' :: plainParameters isPrivate numbers) :
    console.display (escapeCharacter :: (body ++ [final])) =
        console.display (interruptions body ++
          escapeCharacter :: '[' :: (plainParameters isPrivate numbers ++ [final])) ∧
      (console.display (escapeCharacter :: (body ++ [final]))).interpreter.isIdle = true := by
  have ground := isIdle_iff.mp idle
  have begins : isInterruption escapeCharacter = false := by decide
  have spells_whole : uninterrupted (escapeCharacter :: body) =
      opening (plainParameters isPrivate numbers) [] := by
    rw [uninterrupted_cons_of_neg begins, spells, opening, List.append_nil]
  obtain ⟨displayed, stops⟩ := display_interrupted ground (isParameter_of_mem_plainParameters plain)
    (List.forall_mem_nil _) (isArranged_plainParameters plain) ends spells_whole
  rw [interruptions_cons_of_neg begins, opening, List.append_nil] at displayed
  refine ⟨displayed, ?_⟩
  rw [← List.cons_append, stops]
  rfl

/-- A tab within a sequence that moves the cursor by two columns comes before the move. -/
theorem controls_act_first_tab :
    (Console.start ⟨20, 1⟩).display "\x1b\t[\x7f2C".toList =
        (Console.start ⟨20, 1⟩).display "\t\x7f\x1b[2C".toList ∧
      ((Console.start ⟨20, 1⟩).display "\x1b\t[\x7f2C".toList).terminal.column = 10 := by
  have plain : ∀ character ∈ ['2'], character.isDigit = true ∨ character = ';' :=
    List.forall_mem_singleton.mpr (.inl (by decide))
  have idle : (Console.start ⟨20, 1⟩).interpreter.isIdle = true := by decide
  have ends : isFinal 'C' = true := by decide
  have spells : uninterrupted "\t[\x7f2".toList = '[' :: plainParameters false ['2'] := by decide
  exact ⟨(controls_act_first idle false plain ends spells).1, by decide⟩

end Console

end RoguePilot.Terminal
