import RoguePilot.Toml.Quoted
import RoguePilot.Toml.Word

/-!
# Documents

A document is a sequence of statements, one a line: a header opens a table, and an assignment defines a
key in the table opened last. This file reads the text of a document as statements and the statements as
a table.
-/

namespace RoguePilot.Toml

/-- What a reader makes of the start of a text, and what follows that. -/
abbrev Reader (α : Type) : Type := List Char → Except Fault (α × List Char)

/-! ## Space between the parts -/

/-- The text after the blanks at its start. -/
def skipBlanks (text : List Char) : List Char :=
  text.dropWhile isBlank

/-- The text after blanks, line ends and comments at its start. -/
def skipSpace : (inComment : Bool) → List Char → Except Fault (List Char)
  | _, [] => .ok []
  | _, '\n' :: rest => skipSpace false rest
  | _, '\r' :: '\n' :: rest => skipSpace false rest
  | true, character :: rest =>
    if isPlain character then skipSpace true rest else .error (.controlCharacter character)
  | false, character :: rest =>
    if isBlank character then skipSpace false rest
    else if character = '#' then skipSpace true rest
    else .ok (character :: rest)

/-- What follows the line, which may hold nothing more than blanks and a comment. -/
def endLine (text : List Char) : Except Fault (List Char) :=
  let rest := skipBlanks text
  let afterComment := match rest with
    | '#' :: comment => comment.dropWhile isPlain
    | _ => rest
  match afterComment with
  | [] => .ok []
  | '\n' :: next => .ok next
  | '\r' :: '\n' :: next => .ok next
  | _ => .error (.unexpected afterComment)

/-- What follows the given word at the start of a text. -/
def expect (word : List Char) (text : List Char) : Except Fault (List Char) :=
  match Text.dropWord word text with
  | some rest => .ok rest
  | none => .error (.unexpected text)

/-! ## Keys -/

/-- The character may stand in a key without quotes. -/
def isBare (character : Char) : Bool :=
  character.isAlphanum || character = '_' || character = '-'

/-- Reads one part of a key: quoted on one line, or bare. -/
def readKeyPart : Reader String
  | '"' :: rest => (readLine .basic .plain rest).map fun read => (String.ofList read.1, read.2)
  | '\'' :: rest => (readLine .literal .plain rest).map fun read => (String.ofList read.1, read.2)
  | text =>
    let bare := text.takeWhile isBare
    if bare.isEmpty then .error (.unexpected text)
    else .ok (String.ofList bare, text.dropWhile isBare)

/-- The most parts a dotted key may have. -/
def mostKeyParts : Nat := 79

/-- Reads a key of at most so many parts, separated by points that may stand between blanks. -/
def readKeyParts : (most : Nat) → Reader (List String)
  | 0, _ => .error .tooDeep
  | most + 1, text => do
    let (part, rest) ← readKeyPart text
    match skipBlanks rest with
    | '.' :: next => do
      let (parts, following) ← readKeyParts most (skipBlanks next)
      return (part :: parts, following)
    | following => return ([part], following)

/-- A key: the path to its last part, and the last part. -/
structure Key where
  /-- The parts before the last one. -/
  path : List String
  /-- The last part. -/
  name : String
deriving DecidableEq, Repr

/-- The whole path of a key. -/
def Key.parts (key : Key) : List String :=
  key.path ++ [key.name]

/-- Reads a key and the blanks after it. -/
def readKey : Reader Key := fun text => do
  let (parts, rest) ← readKeyParts mostKeyParts text
  return (⟨parts.dropLast, parts.getLastD ""⟩, rest)

/-! ## Values -/

/-- Reads the items of an array after its bracket; a comma may follow the last one. -/
def readItems (item : Reader Value) : (most : Nat) → Reader (List Value)
  | 0, text => .error (.unexpected text)
  | most + 1, text => do
    let start ← skipSpace false text
    match start with
    | ']' :: rest => return ([], rest)
    | _ => do
      let (value, afterValue) ← item start
      match (← skipSpace false afterValue) with
      | ',' :: next => do
        let (values, rest) ← readItems item most next
        return (value :: values, rest)
      | ']' :: rest => return ([value], rest)
      | other => .error (.unexpected other)

/-- Reads a key, an equals sign and a value. -/
def readAssignment (item : Reader Value) : Reader (Key × Value) := fun text => do
  let (key, afterKey) ← readKey text
  let afterSign ← expect ['='] afterKey
  let (value, rest) ← item (skipBlanks afterSign)
  return ((key, value), rest)

/-- Reads the entries of a table in braces; no comma follows the last one. -/
def readEntries (item : Reader Value) : (most : Nat) → Table → Reader Table
  | 0, _, text => .error (.unexpected text)
  | most + 1, table, text => do
    let ((key, value), afterValue) ← readAssignment item (skipBlanks text)
    let longer ← table.define key.path key.name value .inline
    match skipBlanks afterValue with
    | ',' :: next => readEntries item most longer next
    | rest => do
      let following ← expect ['}'] rest
      return (longer, following)

/-- Reads a table in braces after the opening one. -/
def readBraces (item : Reader Value) : Reader Value := fun text =>
  match skipBlanks text with
  | '}' :: rest => .ok (.table .inline [], rest)
  | start => do
    let (table, rest) ← readEntries item (start.length + 1) [] start
    return (.table .inline table, rest)

/-- How deeply arrays and tables in braces may be nested. -/
def deepest : Nat := 79

/-- Reads a value in which arrays and tables in braces are nested at most so deeply. -/
def readValue : (depth : Nat) → Reader Value
  | depth, text =>
    match text with
    | '"' :: _ =>
      (readQuoted .basic text).map fun read => (.text (String.ofList read.1), read.2)
    | '\'' :: _ =>
      (readQuoted .literal text).map fun read => (.text (String.ofList read.1), read.2)
    | '[' :: rest =>
      match depth with
      | 0 => .error .tooDeep
      | depth + 1 =>
        (readItems (readValue depth) (rest.length + 1) rest).map fun read =>
          (.array read.1, read.2)
    | '{' :: rest =>
      match depth with
      | 0 => .error .tooDeep
      | depth + 1 => readBraces (readValue depth) rest
    | _ => Word.read text

/-! ## Statements -/

/-- One statement of a document. -/
inductive Statement where
  /-- A header in brackets. -/
  | opens (key : Key)
  /-- A header in double brackets. -/
  | opensShared (key : Key)
  /-- An assignment. -/
  | defines (key : Key) (value : Value)
deriving Repr

/-- Reads one statement to the end of its line. -/
def readStatement : Reader Statement
  | '[' :: '[' :: text => do
    let (key, rest) ← readKey (skipBlanks text)
    let following ← endLine (← expect [']', ']'] rest)
    return (.opensShared key, following)
  | '[' :: text => do
    let (key, rest) ← readKey (skipBlanks text)
    let following ← endLine (← expect [']'] rest)
    return (.opens key, following)
  | text => do
    let ((key, value), rest) ← readAssignment (readValue deepest) text
    let following ← endLine rest
    return (.defines key value, following)

/-- Reads statements to the end of the text, so many at most. -/
def readStatements : (most : Nat) → List Char → Except Fault (List Statement)
  | 0, text => .error (.unexpected text)
  | most + 1, text => do
    match (← skipSpace false text) with
    | [] => return []
    | start => do
      let (statement, rest) ← readStatement start
      let statements ← readStatements most rest
      return statement :: statements

/-- A mark of the byte order, which may stand at the start of a document. -/
def byteOrderMark : Char := '\uFEFF'

/-- The statements of a document. -/
def statements (text : List Char) : Except Fault (List Statement) :=
  match text with
  | [] => .ok []
  | character :: rest =>
    let body := if character = byteOrderMark then rest else text
    readStatements (body.length + 1) body

/-! ## Tables -/

/-- The table that statements define, and the header they leave open. -/
structure Draft where
  /-- The header opened last; none before the first one. -/
  header : List String
  /-- The table so far. -/
  table : Table

/-- The draft after one more statement. -/
def Draft.state (draft : Draft) : Statement → Except Fault Draft
  | .opens key => (draft.table.openTable key.path key.name).map fun table => ⟨key.parts, table⟩
  | .opensShared key =>
    (draft.table.openShared key.path key.name).map fun table => ⟨key.parts, table⟩
  | .defines key value =>
    (Table.descend false (fun origin table => table.define key.path key.name value origin)
      draft.header .header draft.table).map fun table => { draft with table }

/-- The table that a sequence of statements defines. -/
def tableOf (statements : List Statement) : Except Fault Table :=
  (statements.foldlM Draft.state ⟨[], []⟩).map Draft.table

/-- The table of a document. -/
def parse (text : List Char) : Except Fault Table :=
  (statements text).bind tableOf

end RoguePilot.Toml
