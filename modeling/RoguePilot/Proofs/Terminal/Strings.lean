import RoguePilot.Proofs.Terminal.Buffered

/-!
# Operating-system strings

A string that is meant for the operating system, such as a window title, is skipped whole, whatever is in
it: not even control characters act. Once it is over nothing is left of it, so a text reads the same with
the string and without it.
-/

namespace RoguePilot.Terminal

namespace Interpreter

/-- The character ends a string or may begin to end it. -/
def endsString (character : Char) : Bool :=
  character = '\x07' || character = '\u009c' || character = escapeCharacter

/-- What ends a string: a bell, a terminator of one character, or one of two. -/
def stringEnds : List (List Char) :=
  [['\x07'], ['\u009c'], [escapeCharacter, '\\']]

/-- A string with its introducer and what ends it. -/
def systemString (payload ending : List Char) : List Char :=
  escapeCharacter :: ']' :: (payload ++ ending)

variable {payload ending : List Char}

/-- Control characters and padding are part of the string like any other character. -/
theorem feed_string {character : Char} (inside : endsString character = false) :
    feed .string character = (.string, []) := by
  simp only [endsString, Bool.or_eq_false_iff, decide_eq_false_iff_not] at inside
  obtain ⟨⟨not_bell, not_terminator⟩, not_escape⟩ := inside
  simp [feed, inString, read, afterString, not_bell, not_terminator, not_escape]

theorem feedAll_payload (inside : ∀ character ∈ payload, endsString character = false) :
    feedAll .string payload = (.string, []) := by
  induction payload with
  | nil => rfl
  | cons character payload induction =>
      obtain ⟨here, later⟩ := List.forall_mem_cons.mp inside
      rw [feedAll_cons_of_silent (feed_string here), induction later]

theorem feedAll_ending (ends : ending ∈ stringEnds) : feedAll .string ending = (.ground, []) := by
  have ending_cases : ending = ['\x07'] ∨ ending = ['\u009c'] ∨ ending = [escapeCharacter, '\\'] := by
    simpa [stringEnds] using ends
  rcases ending_cases with rfl | rfl | rfl
  · decide
  · decide
  · decide

section Skipped

variable (inside : ∀ character ∈ payload, endsString character = false) (ends : ending ∈ stringEnds)
include inside ends

theorem feedAll_systemString : feedAll .ground (systemString payload ending) = (.ground, []) := by
  have begins : feed .ground escapeCharacter = (.escape, []) := feed_escape_of_outside rfl
  have introduces : feed .escape ']' = (.string, []) := by decide
  rw [systemString, feedAll_cons_of_silent begins, feedAll_cons_of_silent introduces,
    feedAll_append_of_silent (feedAll_payload inside), feedAll_ending ends]

/-- Between two texts a string leaves no trace, if nothing is partly read where it begins. -/
theorem feedAll_skipped {before : List Char} (idle : (feedAll .ground before).1 = .ground)
    (after : List Char) :
    feedAll .ground (before ++ (systemString payload ending ++ after)) =
      feedAll .ground (before ++ after) := by
  rw [feedAll_append _ before, feedAll_append _ before, idle,
    feedAll_append_of_silent (feedAll_systemString inside ends)]

end Skipped

end Interpreter

open Interpreter

/--
After a text at whose end nothing is partly read, an operating-system string may as well be left out: what
is drawn is the same, and so is what is partly read at the end. With buffers, whatever is left over in them,
it is so too.
-/
theorem strings_leave_no_trace (size : Size) {before : List Char}
    (idle : ((Console.start size).display before).interpreter.isIdle = true) {payload : List Char}
    (inside : ∀ character ∈ payload, endsString character = false) {ending : List Char}
    (ends : ending ∈ stringEnds) (after : List Char) :
    (Console.start size).display (before ++ (systemString payload ending ++ after)) =
        (Console.start size).display (before ++ after) ∧
      ∀ buffered : Buffered, buffered.isIdle = true →
        (buffered.feedAll (before ++ (systemString payload ending ++ after))).2 =
            (buffered.feedAll (before ++ after)).2 ∧
          (buffered.feedAll (before ++ (systemString payload ending ++ after))).1.isIdle =
            (buffered.feedAll (before ++ after)).1.isIdle := by
  rw [Console.display_eq_feedAll] at idle
  have skipped := feedAll_skipped inside ends (isIdle_iff.mp idle) after
  constructor
  · rw [Console.display_eq_feedAll, Console.display_eq_feedAll]
    exact congrArg (fun read => Console.mk read.1 (Terminal.applyAll _ read.2)) skipped
  · intro buffered leftover
    have ground := Buffered.holds_ground leftover
    have whole := ground.feedAll (before ++ (systemString payload ending ++ after))
    have without := ground.feedAll (before ++ after)
    rw [skipped] at whole
    exact ⟨whole.commands_eq.trans without.commands_eq.symm,
      whole.holds.isIdle_eq.trans without.holds.isIdle_eq.symm⟩

/-- A window title with a line feed, padding and what looks like a sequence is not drawn. -/
theorem strings_leave_no_trace_title :
    let title := "0;a\n\x7f[2J世".toList
    (∀ character ∈ title, endsString character = false) ∧ [escapeCharacter, '\\'] ∈ stringEnds ∧
      (Console.start ⟨4, 2⟩).display ("ab".toList ++
          (systemString title [escapeCharacter, '\\'] ++ "c\x1b[".toList)) =
        (Console.start ⟨4, 2⟩).display ("ab".toList ++ "c\x1b[".toList) := by
  intro title
  have inside : ∀ character ∈ title, endsString character = false := by
    simp [title, endsString, escapeCharacter]
  have ends : [escapeCharacter, '\\'] ∈ stringEnds := by decide
  have idle : ((Console.start ⟨4, 2⟩).display "ab".toList).interpreter.isIdle = true := by decide
  exact ⟨inside, ends, (strings_leave_no_trace ⟨4, 2⟩ idle inside ends _).1⟩

end RoguePilot.Terminal
