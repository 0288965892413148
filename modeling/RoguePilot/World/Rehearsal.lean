import RoguePilot.World.FileTree
import RoguePilot.World.Request

/-!
# Rehearsals of the whole program

A rehearsal is a host that keeps the files in memory, runs children that follow a script, and records
what is printed. Time passes only while a child has nothing to show.
-/

namespace RoguePilot.World.Rehearsal

/-- A child that follows a script: it answers one key after the other, whatever they are. -/
structure Performance where
  /-- What it has shown and nobody has read. -/
  pending : List (List UInt8)
  /-- What it shows in answer to the next keys. -/
  answers : List (List UInt8)
  /-- It goes on taking keys after its last answer. -/
  lingers : Bool
  /-- The keys on which it exits. -/
  exitKeys : List UInt8
  /-- It has not exited. -/
  running : Bool
deriving Repr

namespace Performance

/-- The child after it showed something; showing nothing leaves no trace. -/
def display (performance : Performance) (output : List UInt8) : Performance :=
  if output.isEmpty then performance
  else { performance with pending := performance.pending ++ [output] }

/-- The child after it read one key. -/
def press (performance : Performance) (key : UInt8) : Performance :=
  if !performance.running then performance
  else if performance.exitKeys.contains key then { performance with running := false }
  else
    match performance.answers with
    | [] => performance
    | output :: later =>
      { performance.display output with
        answers := later
        running := performance.lingers || !later.isEmpty }

end Performance

/-- The state of a rehearsal. -/
structure Stage where
  /-- The files. -/
  files : FileTree
  /-- The directory the program runs in. -/
  current : Place
  /-- What a program does, given the content of its file, if it can be run. -/
  perform : List UInt8 → Option Performance
  /-- The child. -/
  child : Option Performance := none
  /-- The clock, in nanoseconds. -/
  clock : Nat := 0
  /-- What has been printed. -/
  printed : List Char := []
  /-- What has been printed for the user's attention. -/
  complained : List Char := []

namespace Stage

/-- Changes the files, unless that fails. -/
def change (stage : Stage) (result : Except FileFault FileTree) : Except FileFault Unit × Stage :=
  match result with
  | .ok files => (.ok (), { stage with files })
  | .error fault => (.error fault, stage)

/-- The directory that a child runs in. -/
def childDirectory (stage : Stage) (command : Command) : Except FileFault Place :=
  match command.directory with
  | none => .ok stage.current
  | some path => do
    let place ← stage.files.resolve stage.current path
    match stage.files.node? place with
    | some .directory => return place
    | some (.file _) => .error .notADirectory
    | none => .error .notFound

/-- What a child does. A program is found by a path from the child's directory; no other ones are there. -/
def childOf (stage : Stage) (command : Command) : Except FileFault Performance :=
  if command.holdsNul then .error .badArgument
  else do
    let directory ← stage.childDirectory command
    if !command.program.contains '/' then .error .notFound
    else
      match ← stage.files.find directory command.program with
      | .directory => .error .permissionDenied
      | .file content =>
        match stage.perform content with
        | some performance => return performance
        | none => .error (.other "Exec format error (os error 8)")

/-- Starts a child. -/
def spawn (stage : Stage) (command : Command) : Except FileFault Unit × Stage :=
  match stage.childOf command with
  | .ok performance => (.ok (), { stage with child := some performance })
  | .error fault => (.error fault, stage)

/-- Types keys, unless the child has exited. -/
def write (stage : Stage) (keys : List UInt8) : Bool × Stage :=
  match stage.child with
  | none => (false, stage)
  | some performance =>
    if performance.running then
      (true, { stage with child := some (keys.foldl Performance.press performance) })
    else (false, stage)

/-- Waits for output. With nothing to read, the wait takes all its time, and never no time at all. -/
def poll (stage : Stage) (milliseconds : Nat) : Play.Reading × Stage :=
  let late := stage.clock + max milliseconds 1 * 1000000
  match stage.child with
  | none => (⟨none, late⟩, { stage with clock := late })
  | some performance =>
    match performance.pending with
    | [] => (⟨none, late⟩, { stage with clock := late })
    | output :: outputs =>
      (⟨some output, stage.clock⟩,
        { stage with child := some { performance with pending := outputs } })

end Stage

/-- Answers a request of the program. -/
def respond : (request : Request) → Stage → Answer request × Stage
  | .readFile path, stage => (stage.files.readFile stage.current path, stage)
  | .pathExists path, stage => (stage.files.pathExists stage.current path, stage)
  | .makeDirectories path, stage =>
    stage.change (stage.files.makeDirectories stage.current path)
  | .writeFile path content, stage =>
    stage.change (stage.files.writeFile stage.current path content)
  | .openLog path, stage => stage.change (stage.files.touch stage.current path)
  | .removeFile path, stage => stage.change (stage.files.removeFile stage.current path)
  | .spawn command, stage => stage.spawn command
  | .write keys, stage => stage.write keys
  | .poll milliseconds, stage => stage.poll milliseconds
  | .clock, stage => (stage.clock, stage)
  | .isRunning, stage => ((stage.child.map Performance.running).getD false, stage)
  | .terminate _, stage => ((), { stage with child := none })
  | .print line, stage => ((), { stage with printed := stage.printed ++ line ++ ['\n'] })
  | .complain line, stage =>
    ((), { stage with complained := stage.complained ++ line ++ ['\n'] })

/-- The host of a rehearsal. -/
def host : Dialogue.Host signature Stage := ⟨respond⟩

end RoguePilot.World.Rehearsal
