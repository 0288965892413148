import RoguePilot.Terminal.Interpreter
import RoguePilot.Text.Utf8

/-!
# Sessions

A session is what has become of a child's output: the bytes of a character that is not complete yet, the
sequence that is partly interpreted, and the terminal. It is a function of the bytes received since the
child was started, however they were cut into chunks.
-/

namespace RoguePilot

open Terminal (Console)

/-- The bytes held back and the console they will go to. -/
structure Session where
  /-- The bytes of an incomplete character. -/
  held : List UInt8
  /-- What the complete characters have drawn. -/
  console : Console
deriving DecidableEq, Repr

namespace Session

/-- A session with nothing received on a screen of the given extent. -/
def start (size : Size) : Session :=
  ⟨[], .start size⟩

/-- Receives a chunk of output: the session after it, and the text that became readable. -/
def receive (session : Session) (chunk : List UInt8) : Session × List Char :=
  let decoded := Text.Utf8.decode session.held chunk
  (⟨decoded.1, session.console.display decoded.2⟩, decoded.2)

/-- What is visible. -/
def screen (session : Session) : Screen :=
  session.console.terminal.screen

/-- Where the cursor is. -/
def cursor (session : Session) : Position :=
  session.console.terminal.cursor.position

/-- No sequence is partly read. -/
def isIdle (session : Session) : Bool :=
  session.console.interpreter.isIdle

/-- Receiving two chunks one after the other is receiving them at once. -/
theorem receive_append (session : Session) (left right : List UInt8) :
    session.receive (left ++ right) =
      (((session.receive left).1.receive right).1,
        (session.receive left).2 ++ ((session.receive left).1.receive right).2) := by
  simp [receive, Text.Utf8.decode_append]

end Session

end RoguePilot
