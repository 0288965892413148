import RoguePilot.CommandLine.Run

/-!
# The program on a computer

The requests of the program are answered with the files, the clock and the terminal of the computer. A
game is not started from here: it is reached through two pipes beside its program, one that takes the keys
and one that brings what it shows. Where there are no such pipes, there is no game to play.
-/

namespace RoguePilot.Computer

open World (FileFault Request Answer)

/-- A game at the other end of two pipes. -/
structure Line where
  /-- Takes the keys. -/
  keys : IO.FS.Handle
  /-- What the game has shown and nobody has read. -/
  shown : IO.Ref ByteArray
  /-- More can still be shown. -/
  isOpen : IO.Ref Bool

/-- The fault that an error of the computer tells of. -/
def faultOf : IO.Error → FileFault
  | .noFileOrDirectory _ _ _ => .notFound
  | .permissionDenied _ _ _ => .permissionDenied
  | .alreadyExists _ _ _ => .alreadyThere
  | .inappropriateType _ _ _ => .isADirectory
  | error => .other (toString error)

/-- Does something that can fail. -/
def attempt {α : Type} (action : IO α) : IO (Except FileFault α) := do
  try return .ok (← action) catch error => return .error (faultOf error)

/-- Keeps what a game shows until the game ends. Asking for more bytes would wait for all of them. -/
partial def listen (pipe : IO.FS.Handle) (shown : IO.Ref ByteArray) (isOpen : IO.Ref Bool) :
    IO Unit := do
  let chunk ← pipe.read 1
  if chunk.isEmpty then isOpen.set false
  else
    shown.modify (· ++ chunk)
    listen pipe shown isOpen

/-- Takes up the line to a game. -/
def connect (command : World.Command) : IO Line := do
  let program := World.Path.join (command.directory.getD "") command.program
  let keys ← IO.FS.Handle.mk (program ++ ".keys") .write
  let pipe ← IO.FS.Handle.mk (program ++ ".screen") .read
  let shown ← IO.mkRef ByteArray.empty
  let isOpen ← IO.mkRef true
  let _ ← IO.asTask (listen pipe shown isOpen) .dedicated
  return { keys, shown, isOpen }

/--
Waits for what a game shows until the clock has reached a time. What is being shown is taken once it has
not grown for a moment.
-/
partial def awaitOutput (shown : IO.Ref ByteArray) (seen deadline : Nat) :
    IO (Option (List UInt8)) := do
  let size := (← shown.get).size
  if 0 < size && size = seen then
    return some (← shown.modifyGet fun chunk => (chunk, ByteArray.empty)).toList
  else if size = 0 && deadline ≤ (← IO.monoNanosNow) then return none
  else
    IO.sleep 1
    awaitOutput shown size deadline

/-- Types keys, if there is a game. -/
def type (line : Option Line) (keys : List UInt8) : IO Bool := do
  match line with
  | none => return false
  | some line =>
    try
      line.keys.write ⟨keys.toArray⟩
      line.keys.flush
      return true
    catch _ => return false

/-- Waits so many milliseconds for what a game shows. -/
def poll (line : Option Line) (milliseconds : Nat) : IO Play.Reading := do
  let deadline := (← IO.monoNanosNow) + milliseconds * 1000000
  match line with
  | none =>
    IO.sleep (UInt32.ofNat milliseconds)
    return ⟨none, ← IO.monoNanosNow⟩
  | some line =>
    let chunk ← awaitOutput line.shown 0 deadline
    return ⟨chunk, ← IO.monoNanosNow⟩

/-- Something has this path. -/
def pathExists (path : String) : IO Bool := do
  return (← attempt (IO.FS.realPath path)).isOk

/-- Answers a request. -/
def respond (line : IO.Ref (Option Line)) : (request : Request) → IO (Answer request)
  | .readFile path => attempt do return (← IO.FS.readBinFile path).toList
  | .pathExists path => pathExists path
  | .makeDirectories path => attempt (IO.FS.createDirAll path)
  | .writeFile path content => attempt (IO.FS.writeBinFile path ⟨content.toArray⟩)
  | .openLog path => attempt do let _ ← IO.FS.Handle.mk path .append
  | .removeFile path => attempt (IO.FS.removeFile path)
  | .spawn command => attempt do line.set (some (← connect command))
  | .write keys => do type (← line.get) keys
  | .poll milliseconds => do poll (← line.get) milliseconds
  | .clock => IO.monoNanosNow
  | .isRunning => do
    match ← line.get with
    | none => return false
    | some line => line.isOpen.get
  | .terminate _ => line.set none
  | .print text => IO.println (String.ofList text)
  | .complain text => IO.eprintln (String.ofList text)

end RoguePilot.Computer

/-- Runs the program with the arguments of the command line. -/
def main (arguments : List String) : IO UInt32 := do
  let home ← IO.getEnv "HOME"
  let userProfile ← IO.getEnv "USERPROFILE"
  let line ← IO.mkRef none
  let program := RoguePilot.CommandLine.run 1_000_000_000_000_000_000 { home, userProfile } arguments
  let code ← program.interpret (RoguePilot.Computer.respond line)
  return UInt32.ofNat (code.getD 1)
