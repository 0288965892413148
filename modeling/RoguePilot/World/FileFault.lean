/-!
# Faults of the file system

Why something cannot be done with a file, as the operating system tells it.
-/

namespace RoguePilot.World

/-- Why something cannot be done with a file. -/
inductive FileFault where
  /-- Nothing has this name. -/
  | notFound
  /-- It is not allowed. -/
  | permissionDenied
  /-- Something on the way is no directory. -/
  | notADirectory
  /-- Something has this name already. -/
  | alreadyThere
  /-- It is a directory. -/
  | isADirectory
  /-- The content is no text. -/
  | notText
  /-- A name holds a NUL character. -/
  | badName
  /-- What a child is to be started with holds a NUL character. -/
  | badArgument
  /-- Anything else, in the words of the operating system. -/
  | other (message : String)
deriving DecidableEq, Repr

/-- The wording of a fault. -/
def FileFault.message : FileFault → String
  | .notFound => "No such file or directory (os error 2)"
  | .permissionDenied => "Permission denied (os error 13)"
  | .notADirectory => "Not a directory (os error 20)"
  | .alreadyThere => "File exists (os error 17)"
  | .isADirectory => "Is a directory (os error 21)"
  | .notText => "stream did not contain valid UTF-8"
  | .badName => "file name contained an unexpected NUL byte"
  | .badArgument => "nul byte found in provided data"
  | .other message => message

end RoguePilot.World
