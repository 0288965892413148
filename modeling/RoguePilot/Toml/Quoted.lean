import RoguePilot.Number.Numeral
import RoguePilot.Text.Search
import RoguePilot.Toml.Fault

/-!
# Quoted texts

TOML quotes a text in four ways: with double or single quotes, on one line or, with three of them, as a
block of lines. Only double quotes know escapes. This file reads all four and chooses one for writing:
escapes are avoided where single quotes can hold the text as it is.
-/

namespace RoguePilot.Toml

/-- A way of quoting: the quotation mark, and whether a backslash escapes. -/
structure Quote where
  /-- The quotation mark. -/
  mark : Char
  /-- A backslash begins an escape. -/
  escapes : Bool
deriving DecidableEq, Repr

/-- Double quotes, with escapes. -/
def Quote.basic : Quote := ⟨'"', true⟩

/-- Single quotes, where every character stands for itself. -/
def Quote.literal : Quote := ⟨'\'', false⟩

/-- The character may stand in a text or a comment as it is. -/
def isPlain (character : Char) : Bool :=
  character = '\t' || (0x20 ≤ character.toNat && character.toNat ≠ 0x7F)

/-- A space or a tab. -/
def isBlank (character : Char) : Bool :=
  character = ' ' || character = '\t'

/-- The character that a one-letter escape stands for. -/
def escaped? : Char → Option Char
  | 'b' => some '\x08'
  | 't' => some '\t'
  | 'n' => some '\n'
  | 'f' => some '\x0c'
  | 'r' => some '\r'
  | '"' => some '"'
  | '\\' => some '\\'
  | _ => none

/-- The character with a code, if there is one. -/
def scalar? (code : Nat) : Option Char :=
  if h : code.isValidChar then some (Char.ofNatAux code h) else none

/-! ## Reading -/

/-- What has been read of a quoted text besides whole characters. -/
inductive Quoting where
  /-- Nothing. -/
  | plain
  /-- A backslash. -/
  | escape
  /-- An escape by code, with so many digits to come and the code so far. -/
  | code (missing value : Nat)
  /-- Quotation marks of a block, which may end it. -/
  | marks (count : Nat)
  /-- The first half of a line end that belongs to the text. -/
  | lineEnd
  /-- A backslash and blanks, which a line end must follow. -/
  | escapedBlank
  /-- The first half of a line end that is skipped. -/
  | skippedLineEnd
  /-- Blanks and line ends after an escaped line end, which are skipped. -/
  | skipping
deriving DecidableEq, Repr

/-- What a step of reading yields: what is read now, and the characters that became certain. -/
abbrev Stepped : Type := Except Fault (Quoting × List Char)

/-- Reads a character of an escape by code. -/
def stepCode (missing value : Nat) (character : Char) : Stepped :=
  match Numeral.digit? 16 character with
  | none => .error .badEscape
  | some digit =>
    if missing ≤ 1 then
      match scalar? (value * 16 + digit) with
      | some decoded => .ok (.plain, [decoded])
      | none => .error .badEscape
    else .ok (.code (missing - 1) (value * 16 + digit), [])

/-- Reads the character after a backslash. -/
def stepEscape (character : Char) : Stepped :=
  match escaped? character with
  | some decoded => .ok (.plain, [decoded])
  | none =>
    if character = 'u' then .ok (.code 4 0, [])
    else if character = 'U' then .ok (.code 8 0, [])
    else .error .badEscape

/-- Reads a character of a block with nothing else pending. -/
def stepBlockPlain (quote : Quote) (character : Char) : Stepped :=
  if character = quote.mark then .ok (.marks 1, [])
  else if quote.escapes && character = '\\' then .ok (.escape, [])
  else if character = '\r' then .ok (.lineEnd, [])
  else if character = '\n' || isPlain character then .ok (.plain, [character])
  else .error (.controlCharacter character)

/-- Reads a character of a block, quotation marks that end it excepted. -/
def stepBlock (quote : Quote) (quoting : Quoting) (character : Char) : Stepped :=
  match quoting with
  | .plain => stepBlockPlain quote character
  | .escape =>
    if isBlank character then .ok (.escapedBlank, [])
    else if character = '\n' then .ok (.skipping, [])
    else if character = '\r' then .ok (.skippedLineEnd, [])
    else stepEscape character
  | .code missing value => stepCode missing value character
  | .marks count =>
    if character = quote.mark then .ok (.marks (count + 1), [])
    else (stepBlockPlain quote character).map fun after =>
      (after.1, List.replicate count quote.mark ++ after.2)
  | .lineEnd =>
    if character = '\n' then .ok (.plain, ['\n']) else .error (.controlCharacter '\r')
  | .escapedBlank =>
    if isBlank character then .ok (.escapedBlank, [])
    else if character = '\n' then .ok (.skipping, [])
    else if character = '\r' then .ok (.skippedLineEnd, [])
    else .error .badEscape
  | .skippedLineEnd =>
    if character = '\n' then .ok (.skipping, []) else .error (.controlCharacter '\r')
  | .skipping =>
    if isBlank character || character = '\n' then .ok (.skipping, [])
    else if character = '\r' then .ok (.skippedLineEnd, [])
    else stepBlockPlain quote character

/--
Reads a block after its opening marks: the text and what follows the block. Three marks end it; up to two
more right before them belong to the text.
-/
def readBlock (quote : Quote) : Quoting → List Char → Except Fault (List Char × List Char)
  | .marks count, [] =>
    if 3 ≤ count then .ok (List.replicate (count - 3) quote.mark, []) else .error .unterminated
  | _, [] => .error .unterminated
  | quoting, character :: rest =>
    match quoting with
    | .marks 4 =>
      if character = quote.mark then .ok (List.replicate 2 quote.mark, rest)
      else .ok ([quote.mark], character :: rest)
    | .marks 3 =>
      if character = quote.mark then readBlock quote (.marks 4) rest
      else .ok ([], character :: rest)
    | _ => do
      let (next, certain) ← stepBlock quote quoting character
      let (text, following) ← readBlock quote next rest
      return (certain ++ text, following)

/-- Reads a text on one line after its opening mark: the text and what follows its closing mark. -/
def readLine (quote : Quote) : Quoting → List Char → Except Fault (List Char × List Char)
  | _, [] => .error .unterminated
  | .code missing value, character :: rest => do
    let (next, certain) ← stepCode missing value character
    let (text, following) ← readLine quote next rest
    return (certain ++ text, following)
  | .escape, character :: rest => do
    let (next, certain) ← stepEscape character
    let (text, following) ← readLine quote next rest
    return (certain ++ text, following)
  | _, character :: rest =>
    if character = quote.mark then .ok ([], rest)
    else if quote.escapes && character = '\\' then readLine quote .escape rest
    else if isPlain character then do
      let (text, following) ← readLine quote .plain rest
      return (character :: text, following)
    else .error (.controlCharacter character)

/-- The text without a line end at its start. -/
def dropLineEnd : List Char → List Char
  | '\n' :: rest => rest
  | '\r' :: '\n' :: rest => rest
  | text => text

/-- Reads a text on one line or as a block, from its opening mark on. -/
def readQuoted (quote : Quote) (text : List Char) : Except Fault (List Char × List Char) :=
  match Text.dropWord (List.replicate 3 quote.mark) text with
  | some block => readBlock quote .plain (dropLineEnd block)
  | none =>
    match text with
    | [] => .error .unterminated
    | _ :: rest => readLine quote .plain rest

/-! ## Writing -/

/-- The text can stand between single quotes as it is: no control characters, no three quotes in a row. -/
def fitsLiteral (text : List Char) : Bool :=
  (text.all fun character => character = '\n' || isPlain character) &&
    !Text.occurs ['\'', '\'', '\''] text && !Text.endsWith ['\''] text

/-- The text holds something that double quotes would have to escape. -/
def wantsLiteral (text : List Char) : Bool :=
  text.contains '"' || text.contains '\\'

/-- A character between double quotes. In a block a line end stands for itself. -/
def escapeCharacter (block : Bool) (character : Char) : List Char :=
  if character = '\x08' then ['\\', 'b']
  else if character = '\t' then ['\\', 't']
  else if character = '\n' then if block then ['\n'] else ['\\', 'n']
  else if character = '\x0c' then ['\\', 'f']
  else if character = '\r' then ['\\', 'r']
  else if character = '"' then ['\\', '"']
  else if character = '\\' then ['\\', '\\']
  else if isPlain character then [character]
  else '\\' :: 'u' :: (Numeral.lastDigits 16 4 character.toNat).map Char.toUpper

/-- A quoted text: single quotes where they spare escapes, and a block if there is a line end. -/
def quoted (text : List Char) : List Char :=
  let block := text.contains '\n'
  if wantsLiteral text && fitsLiteral text then
    if block then "'''\n".toList ++ text ++ "'''".toList
    else if text.contains '\'' then "'''".toList ++ text ++ "'''".toList
    else '\'' :: text ++ ['\'']
  else
    let body := text.flatMap (escapeCharacter block)
    if block then "\"\"\"\n".toList ++ body ++ "\"\"\"".toList else '"' :: body ++ ['"']

end RoguePilot.Toml
