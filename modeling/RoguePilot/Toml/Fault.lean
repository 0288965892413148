/-!
# Faults of a TOML document

Why a document is not accepted, as causes. The wording stands in one place at the end.
-/

namespace RoguePilot.Toml

/-- Why a document is not accepted. -/
inductive Fault where
  /-- Nothing that may stand here begins like this. -/
  | unexpected (rest : List Char)
  /-- A quoted text does not end. -/
  | unterminated
  /-- A backslash is not followed by a known escape. -/
  | badEscape
  /-- A control character stands where none may. -/
  | controlCharacter (character : Char)
  /-- A word is neither a number, nor a truth value, nor a time. -/
  | badWord (word : List Char)
  /-- A number is too great. -/
  | numberTooGreat (word : List Char)
  /-- Something is defined twice. -/
  | duplicateKey (key : String)
  /-- Something other than a table is used as one. -/
  | notATable (key : String)
  /-- Values or keys are nested too deeply. -/
  | tooDeep
  /-- A setting has a value of the wrong kind or out of its range. -/
  | badSetting (key : String)
deriving DecidableEq, Repr

/-- The wording of a fault. -/
def Fault.message : Fault → String
  | .unexpected [] => "unexpected end of the document"
  | .unexpected (character :: _) => "unexpected character " ++ character.quote
  | .unterminated => "a quoted text does not end"
  | .badEscape => "unknown escape in a quoted text"
  | .controlCharacter _ => "control character in a text or comment"
  | .badWord word => "not a value: " ++ String.ofList word
  | .numberTooGreat word => "number out of range: " ++ String.ofList word
  | .duplicateKey key => "defined twice: " ++ key
  | .notATable key => "not a table: " ++ key
  | .tooDeep => "nested too deeply"
  | .badSetting key => "wrong kind of value or out of range: " ++ key

end RoguePilot.Toml
