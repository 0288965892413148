/-!
# Reading UTF-8 that arrives in pieces

Bytes are decoded one at a time. The bytes of a character that is not complete yet are held back; a byte
that cannot continue them turns the held bytes into one replacement character and is then read afresh, so
that every maximal part of an ill-formed sequence is replaced once. Because the state is exactly the held
bytes, where the input is cut makes no difference.
-/

namespace RoguePilot.Text.Utf8

/-- What a run of at most four bytes is. -/
inductive Standing where
  /-- The bytes are one whole character. -/
  | complete (character : Char)
  /-- The bytes begin a character. -/
  | unfinished
  /-- No character begins with these bytes. -/
  | illFormed
deriving DecidableEq, Repr

/-- The byte can stand after the first byte of a longer character. -/
def isContinuation (byte : UInt8) : Bool :=
  0x80 ≤ byte && byte ≤ 0xBF

/-- The second byte is admissible after the lead: no overlong form, no surrogate, no excess. -/
def admitsSecond (lead second : UInt8) : Bool :=
  isContinuation second &&
    if lead = 0xE0 then 0xA0 ≤ second
    else if lead = 0xED then second ≤ 0x9F
    else if lead = 0xF0 then 0x90 ≤ second
    else if lead = 0xF4 then second ≤ 0x8F
    else true

/-- The value bits of a continuation byte. -/
def lowBits (byte : UInt8) : Nat :=
  byte.toNat % 0x40

/-- The standing of the bytes held so far together with the newest one. -/
def standing : List UInt8 → Standing
  | [lead] =>
    if lead < 0x80 then .complete (Char.ofNat lead.toNat)
    else if 0xC2 ≤ lead && lead ≤ 0xF4 then .unfinished
    else .illFormed
  | [lead, second] =>
    if !admitsSecond lead second then .illFormed
    else if lead < 0xE0 then .complete (Char.ofNat (lead.toNat % 0x20 * 0x40 + lowBits second))
    else .unfinished
  | [lead, second, third] =>
    if !isContinuation third then .illFormed
    else if lead < 0xF0 then
      .complete (Char.ofNat ((lead.toNat % 0x10 * 0x40 + lowBits second) * 0x40 + lowBits third))
    else .unfinished
  | [lead, second, third, fourth] =>
    if !isContinuation fourth then .illFormed
    else
      .complete (Char.ofNat
        (((lead.toNat % 0x08 * 0x40 + lowBits second) * 0x40 + lowBits third) * 0x40 +
          lowBits fourth))
  | _ => .illFormed

/-- The character that stands for an ill-formed part. -/
def replacement : Char := '\uFFFD'

/-- Reads one byte with nothing held back. -/
def start (byte : UInt8) : List UInt8 × List Char :=
  match standing [byte] with
  | .complete character => ([], [character])
  | .unfinished => ([byte], [])
  | .illFormed => ([], [replacement])

/-- Reads one byte after the held ones: what is held now, and what became readable. -/
def next (held : List UInt8) (byte : UInt8) : List UInt8 × List Char :=
  match held with
  | [] => start byte
  | _ :: _ =>
    match standing (held ++ [byte]) with
    | .complete character => ([], [character])
    | .unfinished => (held ++ [byte], [])
    | .illFormed => ((start byte).1, replacement :: (start byte).2)

/-- Reads a chunk after the held bytes. -/
def decode : List UInt8 → List UInt8 → List UInt8 × List Char
  | held, [] => (held, [])
  | held, byte :: bytes =>
    let after := next held byte
    let rest := decode after.1 bytes
    (rest.1, after.2 ++ rest.2)

/-- The text of bytes that are well-formed throughout. -/
def read? : List UInt8 → List UInt8 → Option (List Char)
  | [], [] => some []
  | _ :: _, [] => none
  | held, byte :: bytes =>
    match standing (held ++ [byte]) with
    | .complete character => (read? [] bytes).map (character :: ·)
    | .unfinished => read? (held ++ [byte]) bytes
    | .illFormed => none

/-- The text of well-formed bytes, or nothing if they are ill-formed or end within a character. -/
def text? (bytes : List UInt8) : Option (List Char) :=
  read? [] bytes

/-- The bytes of a text. -/
def encode (text : List Char) : List UInt8 :=
  text.flatMap String.utf8EncodeChar

/-- Reading two chunks one after the other is reading them at once. -/
theorem decode_append (held left right : List UInt8) :
    decode held (left ++ right) =
      ((decode (decode held left).1 right).1,
        (decode held left).2 ++ (decode (decode held left).1 right).2) := by
  induction left generalizing held with
  | nil => simp [decode]
  | cons byte left induction => simp [decode, induction, List.append_assoc]

end RoguePilot.Text.Utf8
