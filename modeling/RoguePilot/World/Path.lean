/-!
# Paths

Paths are texts whose parts are separated by slashes. An absolute path starts with a slash.
-/

namespace RoguePilot.World.Path

/-- The path starts at the root. -/
def isAbsolute (path : String) : Bool :=
  path.startsWith "/"

/-- The path of a part seen from a base; an absolute part stands for itself. -/
def join (base part : String) : String :=
  if isAbsolute part || base.isEmpty then part
  else if base.endsWith "/" then base ++ part
  else base ++ "/" ++ part

/-- The names on the way of a path. A slash at its end asks for a directory, like a point. -/
def steps (path : String) : List String :=
  let names := (path.splitOn "/").filter fun name => !name.isEmpty
  if path.endsWith "/" then names ++ ["."] else names

/-- The names of a path without the points that stay where they are. -/
def names (path : String) : List String :=
  (steps path).filter (· ≠ ".")

/-- The directory that holds the path; nothing holds the root or an empty path. -/
def parent? (path : String) : Option String :=
  if (steps path).isEmpty || (names path).isEmpty && isAbsolute path then none
  else
    let way := String.intercalate "/" (names path).dropLast
    some (if isAbsolute path then "/" ++ way else way)

end RoguePilot.World.Path
