import RoguePilot.Proofs.Terminal.Buffered

/-!
# Leftovers

Buffers are emptied only when a sequence begins, so what an earlier sequence has left in them, whether it
ended or was given up, is still there while text is printed. Nothing comes of it: once nothing is partly
read, buffers are as good as new ones. Until then they are not, since a sign that is printed otherwise is
lost in them.
-/

namespace RoguePilot.Terminal

/-- Buffers that nothing has been collected in. -/
def Buffered.start : Buffered :=
  ⟨.ground, [], [], none⟩

/-- A terminal together with the buffers for what it is sent. -/
structure BufferedConsole where
  /-- What is partly read, and what is left over. -/
  buffered : Buffered
  /-- What has been drawn. -/
  terminal : Terminal
deriving DecidableEq, Repr

namespace BufferedConsole

/-- A console as switched on. -/
def start (size : Size) : BufferedConsole :=
  ⟨.start, .start size⟩

/-- Displays one character. -/
def feed (console : BufferedConsole) (character : Char) : BufferedConsole :=
  let after := console.buffered.feed character
  ⟨after.1, console.terminal.applyAll after.2⟩

/-- Displays a text. -/
def display (console : BufferedConsole) (text : List Char) : BufferedConsole :=
  text.foldl feed console

/-! ## With buffers and without -/

/-- The buffers hold what the other console has partly read, and the same has been drawn. -/
structure Mirrors (left : BufferedConsole) (right : Console) : Prop where
  /-- The buffers hold what has been read. -/
  holds : left.buffered.Holds right.interpreter
  /-- The terminals are the same. -/
  terminal_eq : left.terminal = right.terminal

namespace Mirrors

variable {left : BufferedConsole} {right : Console}

theorem feed (mirrors : left.Mirrors right) (character : Char) :
    (left.feed character).Mirrors (right.feed character) := by
  have agrees := mirrors.holds.feed character
  refine ⟨agrees.holds, ?_⟩
  rw [BufferedConsole.feed, Console.feed, mirrors.terminal_eq, agrees.commands_eq]

theorem display (mirrors : left.Mirrors right) (text : List Char) :
    (left.display text).Mirrors (right.display text) := by
  induction text generalizing left right with
  | nil => exact mirrors
  | cons character text induction => exact induction (mirrors.feed character)

end Mirrors

/-- Whatever is left over in idle buffers, a text is displayed as without buffers. -/
theorem mirrors_of_isIdle {buffered : Buffered} (idle : buffered.isIdle = true) (terminal : Terminal)
    (text : List Char) :
    (display ⟨buffered, terminal⟩ text).Mirrors (Console.display ⟨.ground, terminal⟩ text) :=
  Mirrors.display ⟨Buffered.holds_ground idle, rfl⟩ text

end BufferedConsole

namespace Buffered

/--
Over any terminal a text is displayed alike from either buffers: the same is drawn, and something is partly
read at its end from both or from neither.
-/
structure DisplaysLike (left right : Buffered) : Prop where
  /-- The same is drawn. -/
  terminal_eq (terminal : Terminal) (text : List Char) :
    (BufferedConsole.display ⟨left, terminal⟩ text).terminal =
      (BufferedConsole.display ⟨right, terminal⟩ text).terminal
  /-- Something is partly read at the end from both or from neither. -/
  isIdle_eq (terminal : Terminal) (text : List Char) :
    (BufferedConsole.display ⟨left, terminal⟩ text).buffered.isIdle =
      (BufferedConsole.display ⟨right, terminal⟩ text).buffered.isIdle

variable {left right : Buffered}

/-- What is left over in idle buffers makes no difference. -/
theorem displaysLike_of_isIdle (left_idle : left.isIdle = true) (right_idle : right.isIdle = true) :
    left.DisplaysLike right := by
  have left_mirrors := BufferedConsole.mirrors_of_isIdle left_idle
  have right_mirrors := BufferedConsole.mirrors_of_isIdle right_idle
  constructor
  · intro terminal text
    have drawn := (left_mirrors terminal text).terminal_eq
    exact drawn.trans (right_mirrors terminal text).terminal_eq.symm
  · intro terminal text
    have partly := (left_mirrors terminal text).holds.isIdle_eq
    exact partly.trans (right_mirrors terminal text).holds.isIdle_eq.symm

end Buffered

/-! ## What is partly read -/

/-- A less-than sign belongs to no sequence: where something is partly read it is lost. -/
theorem Interpreter.silent_of_busy {interpreter : Interpreter} (busy : interpreter.isIdle = false) :
    (interpreter.feed '<').2 = [] := by
  cases interpreter with
  | ground => contradiction
  | _ => rfl

/-- Buffers in which something is partly read do not draw what new ones would. -/
theorem Buffered.Holds.exists_terminal_ne {buffered : Buffered} {interpreter : Interpreter}
    (holds : buffered.Holds interpreter) (busy : buffered.isIdle = false) :
    ∃ terminal text,
      (BufferedConsole.display ⟨buffered, terminal⟩ text).terminal ≠
        (BufferedConsole.display ⟨.start, terminal⟩ text).terminal := by
  refine ⟨.start ⟨1, 1⟩, ['<'], ?_⟩
  have lost : (buffered.feed '<').2 = [] := by
    rw [(holds.feed '<').commands_eq]
    exact Interpreter.silent_of_busy (holds.isIdle_eq.symm.trans busy)
  have unchanged : (BufferedConsole.display ⟨buffered, .start ⟨1, 1⟩⟩ ['<']).terminal =
      .start ⟨1, 1⟩ := by
    change Terminal.applyAll (.start ⟨1, 1⟩) (buffered.feed '<').2 = _
    rw [lost]
    rfl
  rw [unchanged]
  decide

/--
Buffers that a text has been read into are as good as new just when nothing is partly read at its end: over
any terminal every later text is then displayed alike, and otherwise there is one that is drawn differently.
New buffers in turn display what is displayed without buffers.
-/
theorem idle_buffers_as_new (size : Size) (before : List Char) :
    let used := ((BufferedConsole.start size).display before).buffered
    (used.isIdle = true → used.DisplaysLike .start) ∧
      (used.isIdle = false → ∃ terminal text,
        (BufferedConsole.display ⟨used, terminal⟩ text).terminal ≠
          (BufferedConsole.display ⟨.start, terminal⟩ text).terminal) ∧
      ∀ (terminal : Terminal) (text : List Char),
        (BufferedConsole.display ⟨.start, terminal⟩ text).Mirrors
          (Console.display ⟨.ground, terminal⟩ text) := by
  intro used
  have start_idle : Buffered.start.isIdle = true := rfl
  have mirrors := BufferedConsole.mirrors_of_isIdle start_idle
  refine ⟨?_, ?_, mirrors⟩
  · intro idle
    exact Buffered.displaysLike_of_isIdle idle start_idle
  · intro busy
    exact (mirrors (.start size) before).holds.exists_terminal_ne busy

/--
A sequence that is given up leaves a mark and numbers behind. They change nothing of a later sequence, but
while they were being read a sign would have been lost.
-/
theorem idle_buffers_as_new_given_up :
    let partly := ((BufferedConsole.start ⟨4, 2⟩).display "\x1b[?3;45".toList).buffered
    let used := ((BufferedConsole.start ⟨4, 2⟩).display "\x1b[?3;45é".toList).buffered
    let text := "a\x1b[;2Hb\x1b[".toList
    used = ⟨.ground, [3], ['?'], some 45⟩ ∧
      (BufferedConsole.display ⟨used, .start ⟨3, 3⟩⟩ text).terminal =
        (BufferedConsole.display ⟨.start, .start ⟨3, 3⟩⟩ text).terminal ∧
      (BufferedConsole.display ⟨used, .start ⟨3, 3⟩⟩ text).buffered.isIdle =
        (BufferedConsole.display ⟨.start, .start ⟨3, 3⟩⟩ text).buffered.isIdle ∧
      partly.isIdle = false ∧
      ∃ terminal text,
        (BufferedConsole.display ⟨partly, terminal⟩ text).terminal ≠
          (BufferedConsole.display ⟨.start, terminal⟩ text).terminal := by
  intro partly used text
  have idle : used.isIdle = true := by decide
  have busy : partly.isIdle = false := by decide
  have alike := (idle_buffers_as_new ⟨4, 2⟩ "\x1b[?3;45é".toList).1 idle
  exact ⟨by decide, alike.terminal_eq _ text, alike.isIdle_eq _ text, busy,
    (idle_buffers_as_new ⟨4, 2⟩ "\x1b[?3;45".toList).2.1 busy⟩

end RoguePilot.Terminal
