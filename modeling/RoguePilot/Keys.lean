import RoguePilot.Number.Numeral

/-!
# Keystrokes

Keystrokes are the bytes a terminal would send for them. This file names the ones the pilot uses itself
and writes keystrokes in a readable form.
-/

namespace RoguePilot.Keys

/-- The escape key. -/
def escape : List UInt8 := [0x1b]

/-- The space bar. -/
def space : List UInt8 := [0x20]

/-- The code of a letter typed with the control key. -/
def control (key : UInt8) : UInt8 :=
  key &&& 0x1f

/-- The keys of an ASCII text. -/
def ofText (text : String) : List UInt8 :=
  text.toUTF8.toList

/-- The letter Q typed with the control key. -/
def controlQ : List UInt8 := [control 0x71]

/-- One key in readable form. -/
def printableKey (key : UInt8) : List Char :=
  if key = 0x09 then ['\\', 't']
  else if key = 0x0A then ['\\', 'n']
  else if key = 0x0D then ['\\', 'r']
  else if key < 0x20 then ['^', Char.ofNat (key.toNat + 0x40)]
  else if key = 0x7F then ['D', 'E', 'L']
  else if key < 0x7F then [Char.ofNat key.toNat]
  else '\\' :: 'x' :: Numeral.lastDigits 16 2 key.toNat

/--
Keys in readable form: control keys behind a caret, line ends and tabs as escapes, and everything beyond
ASCII in hexadecimal.
-/
def printable (keys : List UInt8) : List Char :=
  keys.flatMap printableKey

end RoguePilot.Keys
