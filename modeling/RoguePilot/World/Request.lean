import RoguePilot.Play.Request
import RoguePilot.World.FileFault

/-!
# What the whole program asks of the outside

Besides talking to a game, the whole program reads and writes files, starts the game as a child, and
prints.
-/

namespace RoguePilot.World

/-- How a child is started. -/
structure Command where
  /-- The program to run. -/
  program : String
  /-- Its arguments. -/
  arguments : List String
  /-- The environment variables that are set for it, by name. -/
  environment : List (String × String)
  /-- The directory it runs in, if it is not the current one. -/
  directory : Option String
deriving DecidableEq, Repr

/-- A text holds a NUL character; no child can be started with it. -/
def holdsNul (text : String) : Bool :=
  text.contains (Char.ofNat 0)

/-- How a text is shown that a child is started with. -/
def shown (text : String) : String :=
  if holdsNul text then "<string-with-nul>" else text

/-- No child can be started so. -/
def Command.holdsNul (command : Command) : Bool :=
  World.holdsNul command.program || command.arguments.any World.holdsNul ||
    command.environment.any (fun entry => World.holdsNul entry.2) ||
    command.directory.any World.holdsNul

/-- The command as it is shown. -/
def Command.shown (command : Command) : Command :=
  { command with
    program := World.shown command.program
    arguments := command.arguments.map World.shown
    directory := command.directory.map World.shown }

/-- What the program can ask. -/
inductive Request where
  /-- Read a file. -/
  | readFile (path : String)
  /-- Ask whether something has this path. -/
  | pathExists (path : String)
  /-- Make a directory with all directories on its way. -/
  | makeDirectories (path : String)
  /-- Give a file new content. -/
  | writeFile (path : String) (content : List UInt8)
  /-- Make sure that a file is there and can be extended. -/
  | openLog (path : String)
  /-- Remove a file. -/
  | removeFile (path : String)
  /-- Start a child. -/
  | spawn (command : Command)
  /-- Type keys for the child. -/
  | write (keys : List UInt8)
  /-- Wait for output of the child, so many milliseconds at most. -/
  | poll (milliseconds : Nat)
  /-- Look at the clock. -/
  | clock
  /-- Ask whether the child's output can still come. -/
  | isRunning
  /-- Stop the child, after so many milliseconds by force. -/
  | terminate (milliseconds : Nat)
  /-- Print a line. -/
  | print (line : List Char)
  /-- Print a line for the user's attention. -/
  | complain (line : List Char)
deriving DecidableEq, Repr

/-- The answers to each request. -/
def Answer : Request → Type
  | .readFile _ => Except FileFault (List UInt8)
  | .pathExists _ => Bool
  | .makeDirectories _ => Except FileFault Unit
  | .writeFile _ _ => Except FileFault Unit
  | .openLog _ => Except FileFault Unit
  | .removeFile _ => Except FileFault Unit
  | .spawn _ => Except FileFault Unit
  | .write _ => Bool
  | .poll _ => Play.Reading
  | .clock => Nat
  | .isRunning => Bool
  | .terminate _ => Unit
  | .print _ => Unit
  | .complain _ => Unit

/-- The requests of the whole program with their answers. -/
def signature : Signature := ⟨Request, Answer⟩

/-- A program that deals with the world. -/
abbrev Program (α : Type) : Type := Dialogue signature α

/-- Reads a file. -/
def readFile (path : String) : Program (Except FileFault (List UInt8)) :=
  .ask (.readFile path) .done

/-- Tells whether something has this path. -/
def pathExists (path : String) : Program Bool := .ask (.pathExists path) .done

/-- Makes a directory with all directories on its way. -/
def makeDirectories (path : String) : Program (Except FileFault Unit) :=
  .ask (.makeDirectories path) .done

/-- Gives a file new content. -/
def writeFile (path : String) (content : List UInt8) : Program (Except FileFault Unit) :=
  .ask (.writeFile path content) .done

/-- Makes sure that a file is there and can be extended. -/
def openLog (path : String) : Program (Except FileFault Unit) := .ask (.openLog path) .done

/-- Removes a file. -/
def removeFile (path : String) : Program (Except FileFault Unit) := .ask (.removeFile path) .done

/-- Starts a child. -/
def spawn (command : Command) : Program (Except FileFault Unit) := .ask (.spawn command) .done

/-- Prints a line. -/
def print (line : List Char) : Program Unit := .ask (.print line) .done

/-- Prints a line for the user's attention. -/
def complain (line : List Char) : Program Unit := .ask (.complain line) .done

end RoguePilot.World
