import RoguePilot.Toml.Document

/-!
# Writing documents

Documents are written section by section: a header, and a line for every setting. Lists of several texts
take a line for each. What is written is read back as the table of its sections.
-/

namespace RoguePilot.Toml

/-- A value as it is written. -/
inductive Written where
  /-- A text. -/
  | text (content : String)
  /-- A number. -/
  | number (amount : Nat)
  /-- A list of texts. -/
  | texts (items : List String)
deriving DecidableEq, Repr

/-- The value that is read back. -/
def Written.toValue : Written → Value
  | .text content => .text content
  | .number amount => .integer amount
  | .texts items => .array (items.map .text)

/-- A list on one line if it has at most one item, and with one line for each of several. -/
def renderTexts : List String → List Char
  | [] => "[]".toList
  | [item] => '[' :: quoted item.toList ++ [']']
  | items =>
    "[\n".toList ++ (items.flatMap fun item => "    ".toList ++ quoted item.toList ++ ",\n".toList) ++
      [']']

/-- The text of a value. -/
def Written.render : Written → List Char
  | .text content => quoted content.toList
  | .number amount => Numeral.decimal amount
  | .texts items => renderTexts items

/-- A section: the name in its header, and its settings. -/
structure Section where
  /-- The name in the header. -/
  name : String
  /-- The settings with their keys, all of which are bare. -/
  settings : List (String × Written)
deriving DecidableEq, Repr

/-- The line of a setting. -/
def renderSetting (setting : String × Written) : List Char :=
  setting.1.toList ++ " = ".toList ++ setting.2.render ++ ['\n']

/-- The lines of a section. -/
def Section.render (part : Section) : List Char :=
  '[' :: part.name.toList ++ "]\n".toList ++ part.settings.flatMap renderSetting

/-- The text of a document: its sections with an empty line between each and the next. -/
def render : List Section → List Char
  | [] => []
  | [part] => part.render
  | part :: parts => part.render ++ '\n' :: render parts

/-- The table that is read back from sections. -/
def Section.toTable (parts : List Section) : Table :=
  parts.map fun part =>
    (part.name, .table .header (part.settings.map fun setting => (setting.1, setting.2.toValue)))

end RoguePilot.Toml
