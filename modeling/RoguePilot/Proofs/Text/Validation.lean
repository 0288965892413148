import RoguePilot.Text.Utf8

/-!
# Validating UTF-8 slice by slice

Bytes can also be decoded as a whole: find out how far they are well-formed and what stops them
there, replace the part that is to blame, and go on behind it. What stops them is a maximal part of
a character that the next byte does not continue, unless the bytes end before that is known; then
the part is held back. The admissible bytes after each lead are those of the table of well-formed
sequences. Decoding as a whole and decoding byte by byte come to the same.
-/

namespace RoguePilot.Text.Utf8

/-! ## The table of well-formed sequences -/

/-- The bytes between two inclusive ends. -/
structure Range where
  /-- The least byte. -/
  least : UInt8
  /-- The greatest byte. -/
  greatest : UInt8
deriving DecidableEq, Repr

/-- The byte lies in the range. -/
def Range.admits (range : Range) (byte : UInt8) : Bool :=
  range.least ≤ byte && byte ≤ range.greatest

/-- The ranges of the bytes that follow a lead, unless no character has it. -/
def followers (lead : UInt8) : Option (List Range) :=
  if lead ≤ 0x7F then some []
  else if lead ≤ 0xC1 then none
  else if lead ≤ 0xDF then some [⟨0x80, 0xBF⟩]
  else if lead ≤ 0xE0 then some [⟨0xA0, 0xBF⟩, ⟨0x80, 0xBF⟩]
  else if lead ≤ 0xEC then some [⟨0x80, 0xBF⟩, ⟨0x80, 0xBF⟩]
  else if lead ≤ 0xED then some [⟨0x80, 0x9F⟩, ⟨0x80, 0xBF⟩]
  else if lead ≤ 0xEF then some [⟨0x80, 0xBF⟩, ⟨0x80, 0xBF⟩]
  else if lead ≤ 0xF0 then some [⟨0x90, 0xBF⟩, ⟨0x80, 0xBF⟩, ⟨0x80, 0xBF⟩]
  else if lead ≤ 0xF3 then some [⟨0x80, 0xBF⟩, ⟨0x80, 0xBF⟩, ⟨0x80, 0xBF⟩]
  else if lead ≤ 0xF4 then some [⟨0x80, 0x8F⟩, ⟨0x80, 0xBF⟩, ⟨0x80, 0xBF⟩]
  else none

/-! ## Decoding as a whole -/

/-- What stands at the start of some bytes. -/
inductive Head where
  /-- A whole character and what comes after it. -/
  | whole (character rest : List UInt8)
  /-- The start of a character, at which the bytes end. -/
  | cut
  /-- A part with which no character goes on, and what comes after it. -/
  | broken (part rest : List UInt8)
deriving DecidableEq, Repr

/-- Compares bytes with the ranges they have to lie in after those already taken. -/
def follow (taken : List UInt8) : List Range → List UInt8 → Head
  | [], bytes => .whole taken bytes
  | _ :: _, [] => .cut
  | range :: ranges, byte :: bytes =>
      if range.admits byte then follow (taken ++ [byte]) ranges bytes
      else .broken taken (byte :: bytes)

/-- What stands at the start of bytes with the given lead. -/
def head (lead : UInt8) (bytes : List UInt8) : Head :=
  match followers lead with
  | none => .broken [lead] bytes
  | some ranges => follow [lead] ranges bytes

/-- How far bytes are well-formed and what stops them there. -/
inductive Verdict where
  /-- Nothing stops them. -/
  | sound
  /-- They end within a character. -/
  | cut (valid part : List UInt8)
  /-- A part with which no character goes on stands before the rest. -/
  | broken (valid part rest : List UInt8)
deriving DecidableEq, Repr

/-- The verdict on bytes with a whole character in front of those judged. -/
def Verdict.behind (character : List UInt8) : Verdict → Verdict
  | .sound => .sound
  | .cut valid part => .cut (character ++ valid) part
  | .broken valid part rest => .broken (character ++ valid) part rest

/-- The bytes are what was found at their start followed by the rest. -/
def Head.Divides (bytes : List UInt8) : Head → Prop
  | .whole character rest => character ≠ [] ∧ character ++ rest = bytes
  | .cut => True
  | .broken part rest => part ≠ [] ∧ part ++ rest = bytes

/-- The bytes are the well-formed ones, those to blame and the rest. -/
def Verdict.Divides (bytes : List UInt8) : Verdict → Prop
  | .sound => True
  | .cut valid part => valid ++ part = bytes
  | .broken valid part rest => part ≠ [] ∧ valid ++ part ++ rest = bytes

theorem follow_divides {taken : List UInt8} (taken_ne : taken ≠ []) (ranges : List Range)
    (bytes : List UInt8) : (follow taken ranges bytes).Divides (taken ++ bytes) := by
  fun_induction follow taken ranges bytes with
  | case1 taken bytes => exact ⟨taken_ne, rfl⟩
  | case2 taken range ranges => trivial
  | case3 taken range ranges byte bytes admitted induction =>
      rw [List.append_cons]
      exact induction (List.append_ne_nil_of_right_ne_nil taken (List.cons_ne_nil byte []))
  | case4 taken range ranges byte bytes refused => exact ⟨taken_ne, rfl⟩

theorem head_divides (lead : UInt8) (bytes : List UInt8) :
    (head lead bytes).Divides (lead :: bytes) := by
  unfold head
  split
  · exact ⟨List.cons_ne_nil lead [], rfl⟩
  · exact follow_divides (List.cons_ne_nil lead []) _ bytes

theorem length_rest_head {lead : UInt8} {bytes character rest : List UInt8}
    (found : head lead bytes = .whole character rest) : rest.length < (lead :: bytes).length := by
  have divides := head_divides lead bytes
  rw [found] at divides
  rw [← divides.2, List.length_append]
  exact Nat.lt_add_of_pos_left (List.length_pos_iff.mpr divides.1)

/-- The verdict on bytes, character after character. -/
def validate : List UInt8 → Verdict
  | [] => .sound
  | lead :: bytes =>
      match _found : head lead bytes with
      | .whole character rest => (validate rest).behind character
      | .cut => .cut [] (lead :: bytes)
      | .broken part rest => .broken [] part rest
termination_by bytes => bytes.length
decreasing_by exact length_rest_head ‹_›

theorem Verdict.Divides.behind {character rest : List UInt8} {verdict : Verdict}
    (divides : verdict.Divides rest) : (verdict.behind character).Divides (character ++ rest) := by
  cases verdict with
  | sound => trivial
  | cut valid part =>
      change character ++ valid ++ part = character ++ rest
      rw [List.append_assoc, divides]
  | broken valid part rest =>
      refine ⟨divides.1, ?_⟩
      rw [← divides.2]
      simp only [List.append_assoc]

theorem validate_divides (bytes : List UInt8) : (validate bytes).Divides bytes := by
  fun_induction validate bytes with
  | case1 => trivial
  | case2 lead bytes character rest found induction =>
      have divides := head_divides lead bytes
      rw [found] at divides
      rw [← divides.2]
      exact induction.behind
  | case3 lead bytes found => rfl
  | case4 lead bytes part rest found =>
      have divides := head_divides lead bytes
      rwa [found] at divides

theorem length_rest_validate {bytes valid part rest : List UInt8}
    (judged : validate bytes = .broken valid part rest) : rest.length < bytes.length := by
  have divides := validate_divides bytes
  rw [judged] at divides
  rw [← divides.2, List.append_assoc, List.length_append, List.length_append]
  have part_pos := List.length_pos_iff.mpr divides.1
  omega

/--
Decodes bytes as a whole: the part held back because they end within a character, and the text, in
which a replacement character stands for every part to blame.
-/
def lossy (bytes : List UInt8) : List UInt8 × List Char :=
  match _judged : validate bytes with
  | .sound => ([], (text? bytes).getD [])
  | .cut valid part => (part, (text? valid).getD [])
  | .broken valid _ rest =>
      let later := lossy rest
      (later.1, (text? valid).getD [] ++ replacement :: later.2)
termination_by bytes.length
decreasing_by exact length_rest_validate ‹_›

/-! ## Leads and the bytes after them -/

/-- What the byte-by-byte reader makes of a lead that the table lets others follow. -/
structure Introduces (lead : UInt8) (range : Range) (ranges : List Range) : Prop where
  /-- The lead begins a longer character. -/
  long : 0xC2 ≤ lead ∧ lead ≤ 0xF4
  /-- It admits the same second bytes. -/
  admitsSecond_eq : ∀ byte, admitsSecond lead byte = range.admits byte
  /-- Its later bytes are as many and any continuation. -/
  later :
    lead < 0xE0 ∧ ranges = [] ∨
      ¬lead < 0xE0 ∧ lead < 0xF0 ∧ ranges = [⟨0x80, 0xBF⟩] ∨
      ¬lead < 0xE0 ∧ ¬lead < 0xF0 ∧ ranges = [⟨0x80, 0xBF⟩, ⟨0x80, 0xBF⟩]

theorem introduces_of_followers {lead : UInt8} {range : Range} {ranges : List Range}
    (known : followers lead = some (range :: ranges)) : Introduces lead range ranges := by
  revert known
  fun_cases followers lead
  all_goals
    intro known
    cases known
  all_goals
    constructor
    all_goals
      simp only [admitsSecond, isContinuation, Range.admits, UInt8.le_iff_toNat_le,
        UInt8.lt_iff_toNat_lt, ← UInt8.toNat_inj] at *
      grind

theorem standing_unknown {lead : UInt8} (unknown : followers lead = none) :
    standing [lead] = .illFormed := by
  revert unknown
  fun_cases followers lead
  all_goals
    simp only [standing, UInt8.le_iff_toNat_le, UInt8.lt_iff_toNat_lt] at *
    grind

theorem standing_alone {lead : UInt8} (alone : followers lead = some []) :
    standing [lead] = .complete (Char.ofNat lead.toNat) := by
  revert alone
  fun_cases followers lead
  all_goals
    simp only [standing, UInt8.le_iff_toNat_le, UInt8.lt_iff_toNat_lt] at *
    grind

theorem standing_introduced {lead : UInt8} {range : Range} {ranges : List Range}
    (known : followers lead = some (range :: ranges)) : standing [lead] = .unfinished := by
  have long := (introduces_of_followers known).long
  simp only [standing, UInt8.le_iff_toNat_le, UInt8.lt_iff_toNat_lt] at long ⊢
  grind

/-- The bytes begin a character whose next bytes lie in the ranges. -/
inductive Pending : List UInt8 → Range → List Range → Prop where
  /-- A lead that others follow. -/
  | lead {lead : UInt8} {range : Range} {ranges : List Range}
    (known : followers lead = some (range :: ranges)) : Pending [lead] range ranges
  /-- One more byte, which is not the last one. -/
  | next {held : List UInt8} {range later : Range} {ranges : List Range} {byte : UInt8}
    (pending : Pending held range (later :: ranges)) (admitted : range.admits byte = true) :
    Pending (held ++ [byte]) later ranges

/-- What each byte makes of bytes after which the ranges are due. -/
structure Expects (held : List UInt8) (range : Range) (ranges : List Range) : Prop where
  /-- The last byte completes a character. -/
  complete : ∀ byte, range.admits byte = true → ranges = [] →
    ∃ character, standing (held ++ [byte]) = .complete character
  /-- Any other admissible byte leaves it unfinished. -/
  unfinished : ∀ byte, range.admits byte = true → ranges ≠ [] →
    standing (held ++ [byte]) = .unfinished
  /-- No character goes on with any other byte. -/
  illFormed : ∀ byte, range.admits byte = false → standing (held ++ [byte]) = .illFormed

theorem Expects.of_standing {held : List UInt8} {range : Range} {ranges : List Range} {last : Prop}
    [Decidable last] (glyph : UInt8 → Char) (last_iff : ranges = [] ↔ last)
    (standing_eq : ∀ byte, standing (held ++ [byte]) =
      if !range.admits byte then .illFormed
      else if last then .complete (glyph byte) else .unfinished) :
    Expects held range ranges where
  complete byte admitted done := ⟨glyph byte, by simp [standing_eq, admitted, last_iff.mp done]⟩
  unfinished byte admitted more := by
    simp [standing_eq, admitted, mt last_iff.mpr more]
  illFormed byte refused := by simp [standing_eq, refused]

theorem Introduces.eq_nil_iff {lead : UInt8} {range : Range} {ranges : List Range}
    (introduces : Introduces lead range ranges) : ranges = [] ↔ lead < 0xE0 := by
  have later := introduces.later
  grind

/-- Any continuation can be the third byte, and the lead says if it is the last one. -/
theorem Introduces.third {lead : UInt8} {range third : Range} {ranges : List Range}
    (introduces : Introduces lead range (third :: ranges)) :
    third = ⟨0x80, 0xBF⟩ ∧ (ranges = [] ↔ lead < 0xF0) := by
  have later := introduces.later
  grind

theorem Introduces.fourth {lead : UInt8} {range third fourth : Range} {ranges : List Range}
    (introduces : Introduces lead range (third :: fourth :: ranges)) :
    fourth = ⟨0x80, 0xBF⟩ ∧ ranges = [] := by
  have later := introduces.later
  grind

/-- At least one byte is held, and with those to come there are at most four. -/
theorem Pending.length_bounds {held : List UInt8} {range : Range} {ranges : List Range}
    (pending : Pending held range ranges) :
    0 < held.length ∧ held.length + ranges.length ≤ 3 := by
  induction pending with
  | lead known =>
      have later := (introduces_of_followers known).later
      grind
  | next pending admitted induction =>
      simp only [List.length_cons, List.length_append, List.length_nil] at *
      omega

theorem Pending.expects {held : List UInt8} {range : Range} {ranges : List Range}
    (pending : Pending held range ranges) : Expects held range ranges := by
  cases pending with
  | @lead lead _ _ known =>
      have introduces := introduces_of_followers known
      let glyph (byte : UInt8) := Char.ofNat (lead.toNat % 0x20 * 0x40 + lowBits byte)
      refine .of_standing glyph introduces.eq_nil_iff fun byte => ?_
      rw [← introduces.admitsSecond_eq]
      rfl
  | next pending _ =>
      cases pending with
      | lead known =>
          obtain ⟨rfl, last_iff⟩ := (introduces_of_followers known).third
          exact .of_standing _ last_iff fun byte => rfl
      | next pending _ =>
          cases pending with
          | lead known =>
              obtain ⟨rfl, rfl⟩ := (introduces_of_followers known).fourth
              exact .of_standing _ (iff_of_true rfl trivial) fun byte => rfl
          | next pending _ =>
              have bounds := pending.length_bounds
              simp only [List.length_cons] at bounds
              omega

/-! ## The two readers agree -/

section Reading

variable {held bytes : List UInt8} {byte : UInt8} {character : Char}

theorem next_of_complete (complete : standing (held ++ [byte]) = .complete character) :
    next held byte = ([], [character]) := by
  cases held with
  | nil =>
      rw [List.nil_append] at complete
      rw [next, start, complete]
  | cons first held => rw [next, complete]

theorem next_of_unfinished (unfinished : standing (held ++ [byte]) = .unfinished) :
    next held byte = (held ++ [byte], []) := by
  cases held with
  | nil =>
      rw [List.nil_append] at unfinished
      rw [next, start, unfinished]
      rfl
  | cons first held => rw [next, unfinished]

/-- A byte that does not continue the held ones is read afresh behind their replacement. -/
theorem decode_of_illFormed (held_ne : held ≠ [])
    (illFormed : standing (held ++ [byte]) = .illFormed) (bytes : List UInt8) :
    decode held (byte :: bytes) =
      ((decode [] (byte :: bytes)).1, replacement :: (decode [] (byte :: bytes)).2) := by
  cases held with
  | nil => exact absurd rfl held_ne
  | cons first held => rw [decode, next, illFormed, decode, next]; rfl

theorem read?_append {first second : List UInt8} {text more : List Char}
    (first_eq : read? held first = some text) (second_eq : text? second = some more) :
    read? held (first ++ second) = some (text ++ more) := by
  fun_induction read? held first generalizing text with
  | case1 =>
      cases first_eq
      exact second_eq
  | case2 => cases first_eq
  | case3 held byte bytes glyph complete induction =>
      obtain ⟨later, later_eq, rfl⟩ := Option.map_eq_some_iff.mp first_eq
      rw [List.cons_append, read?, complete]
      simp only [induction later_eq, Option.map_some, List.cons_append]
  | case4 held byte bytes unfinished induction =>
      rw [List.cons_append, read?, unfinished]
      exact induction first_eq
  | case5 => cases first_eq

theorem decode_of_read? {text : List Char} (known : read? held bytes = some text) :
    decode held bytes = ([], text) := by
  fun_induction read? held bytes generalizing text with
  | case1 =>
      cases known
      rfl
  | case2 => cases known
  | case3 held byte bytes glyph complete induction =>
      obtain ⟨later, later_eq, rfl⟩ := Option.map_eq_some_iff.mp known
      rw [decode, next_of_complete complete]
      simp only [induction later_eq, List.cons_append, List.nil_append]
  | case4 held byte bytes unfinished induction =>
      rw [decode, next_of_unfinished unfinished]
      simp only [induction known, List.nil_append]
  | case5 => cases known

end Reading

theorem Pending.read?_eq {held : List UInt8} {range : Range} {ranges : List Range}
    (pending : Pending held range ranges) (bytes : List UInt8) :
    read? [] (held ++ bytes) = read? held bytes := by
  induction pending generalizing bytes with
  | lead known =>
      have unfinished := standing_introduced known
      rw [List.cons_append, read?, List.nil_append, unfinished]
      rfl
  | next pending admitted induction =>
      have unfinished := pending.expects.unfinished _ admitted (List.cons_ne_nil _ _)
      rw [List.append_assoc, induction, List.cons_append, read?, unfinished]
      rfl

theorem Pending.decode_eq {held : List UInt8} {range : Range} {ranges : List Range}
    (pending : Pending held range ranges) : decode [] held = (held, []) := by
  induction pending with
  | lead known =>
      have unfinished := standing_introduced known
      rw [decode, Utf8.next, start, unfinished]
      rfl
  | next pending admitted induction =>
      have unfinished := pending.expects.unfinished _ admitted (List.cons_ne_nil _ _)
      rw [decode_append, induction, decode, next_of_unfinished unfinished]
      rfl

/-- What was found at the start of bytes is what the byte-by-byte reader makes of it. -/
def Head.Agrees (bytes : List UInt8) : Head → Prop
  | .whole character _ => ∃ glyph, text? character = some [glyph]
  | .cut => decode [] bytes = (bytes, [])
  | .broken _ rest =>
      decode [] bytes = ((decode [] rest).1, replacement :: (decode [] rest).2)

theorem follow_agrees {taken : List UInt8} {range : Range} {ranges : List Range}
    (pending : Pending taken range ranges) (bytes : List UInt8) :
    (follow taken (range :: ranges) bytes).Agrees (taken ++ bytes) := by
  induction bytes generalizing taken range ranges with
  | nil =>
      rw [List.append_nil]
      exact pending.decode_eq
  | cons byte bytes induction =>
      have expects := pending.expects
      rw [follow]
      split
      · next admitted =>
        cases ranges with
        | nil =>
            obtain ⟨glyph, complete⟩ := expects.complete byte admitted rfl
            rw [follow]
            refine ⟨glyph, ?_⟩
            rw [text?, pending.read?_eq, read?, complete]
            rfl
        | cons later ranges =>
            rw [List.append_cons]
            exact induction (pending.next admitted)
      · next refused =>
        have illFormed := expects.illFormed byte (Bool.eq_false_iff.mpr refused)
        have taken_ne := List.length_pos_iff.mp pending.length_bounds.1
        change decode [] (taken ++ byte :: bytes) = _
        rw [decode_append, pending.decode_eq, decode_of_illFormed taken_ne illFormed]
        rfl

theorem head_agrees (lead : UInt8) (bytes : List UInt8) :
    (head lead bytes).Agrees (lead :: bytes) := by
  unfold head
  split
  · next unknown =>
    change decode [] (lead :: bytes) = _
    rw [decode, next, start, standing_unknown unknown]
    rfl
  · next ranges known =>
    cases ranges with
    | nil =>
        rw [follow]
        refine ⟨Char.ofNat lead.toNat, ?_⟩
        rw [text?, read?, List.nil_append, standing_alone known]
        rfl
    | cons range ranges => exact follow_agrees (.lead known) bytes

/-- The bytes before what stops them are well-formed, and the rest is read as the verdict says. -/
def Verdict.Agrees (bytes : List UInt8) : Verdict → Prop
  | .sound => ∃ text, text? bytes = some text
  | .cut valid part => (∃ text, text? valid = some text) ∧ decode [] part = (part, [])
  | .broken valid part rest =>
      (∃ text, text? valid = some text) ∧
        decode [] (part ++ rest) = ((decode [] rest).1, replacement :: (decode [] rest).2)

theorem Verdict.Agrees.behind {character rest : List UInt8} {glyph : Char} {verdict : Verdict}
    (character_eq : text? character = some [glyph]) (agrees : verdict.Agrees rest) :
    (verdict.behind character).Agrees (character ++ rest) := by
  cases verdict with
  | sound =>
      obtain ⟨text, text_eq⟩ := agrees
      exact ⟨_, read?_append character_eq text_eq⟩
  | cut valid part =>
      obtain ⟨⟨text, text_eq⟩, part_eq⟩ := agrees
      exact ⟨⟨_, read?_append character_eq text_eq⟩, part_eq⟩
  | broken valid part rest =>
      obtain ⟨⟨text, text_eq⟩, part_eq⟩ := agrees
      exact ⟨⟨_, read?_append character_eq text_eq⟩, part_eq⟩

theorem validate_agrees (bytes : List UInt8) : (validate bytes).Agrees bytes := by
  fun_induction validate bytes with
  | case1 => exact ⟨[], rfl⟩
  | case2 lead bytes character rest found induction =>
      have divides := head_divides lead bytes
      have agrees := head_agrees lead bytes
      rw [found] at divides agrees
      obtain ⟨glyph, character_eq⟩ := agrees
      rw [← divides.2]
      exact induction.behind character_eq
  | case3 lead bytes found =>
      have agrees := head_agrees lead bytes
      rw [found] at agrees
      exact ⟨⟨[], rfl⟩, agrees⟩
  | case4 lead bytes part rest found =>
      have divides := head_divides lead bytes
      have agrees := head_agrees lead bytes
      rw [found] at divides agrees
      refine ⟨⟨[], rfl⟩, ?_⟩
      rw [divides.2]
      exact agrees

/-! ## What is held back -/

section Held

variable {property : List UInt8 → Prop} (nothing : property [])
  (goes_on : ∀ {held byte}, property held → standing (held ++ [byte]) = .unfinished →
    property (held ++ [byte]))
include nothing goes_on

theorem holds_start (byte : UInt8) : property (start byte).1 := by
  unfold start
  split
  · exact nothing
  · next unfinished => exact goes_on nothing unfinished
  · exact nothing

theorem holds_next {held : List UInt8} (holds : property held) (byte : UInt8) :
    property (next held byte).1 := by
  cases standing_eq : standing (held ++ [byte]) with
  | complete character =>
      rw [next_of_complete standing_eq]
      exact nothing
  | unfinished =>
      rw [next_of_unfinished standing_eq]
      exact goes_on holds standing_eq
  | illFormed =>
      cases held with
      | nil => exact holds_start nothing goes_on byte
      | cons first held =>
          rw [next, standing_eq]
          exact holds_start nothing goes_on byte

/-- What holds of no bytes, and of one more byte of an unfinished character, holds of what is held back. -/
theorem holds_decode {held : List UInt8} (holds : property held) (bytes : List UInt8) :
    property (decode held bytes).1 := by
  induction bytes generalizing held with
  | nil => exact holds
  | cons byte bytes induction => exact induction (holds_next nothing goes_on holds byte)

end Held

/-- The bytes are held back again if they are read afresh. -/
def Settled (held : List UInt8) : Prop :=
  decode [] held = (held, [])

theorem settled_nil : Settled [] := rfl

theorem Settled.of_unfinished {held : List UInt8} {byte : UInt8} (settled : Settled held)
    (unfinished : standing (held ++ [byte]) = .unfinished) : Settled (held ++ [byte]) := by
  rw [Settled, decode_append, settled, decode, next_of_unfinished unfinished]
  rfl

theorem Settled.decode {held : List UInt8} (settled : Settled held) (bytes : List UInt8) :
    Settled (decode held bytes).1 :=
  holds_decode settled_nil Settled.of_unfinished settled bytes

/-- Decoding bytes as a whole is decoding them byte by byte. -/
theorem lossy_eq_decode (bytes : List UInt8) : lossy bytes = decode [] bytes := by
  fun_induction lossy bytes with
  | case1 bytes judged =>
      have agrees := validate_agrees bytes
      rw [judged] at agrees
      obtain ⟨text, text_eq⟩ := agrees
      rw [text_eq, decode_of_read? text_eq]
      rfl
  | case2 bytes valid part judged =>
      have divides := validate_divides bytes
      have agrees := validate_agrees bytes
      rw [judged] at divides agrees
      obtain ⟨⟨text, text_eq⟩, part_eq⟩ := agrees
      rw [← divides, decode_append, decode_of_read? text_eq, part_eq, text_eq]
      simp
  | case3 bytes valid part rest judged later induction =>
      have divides := validate_divides bytes
      have agrees := validate_agrees bytes
      rw [judged] at divides agrees
      obtain ⟨⟨text, text_eq⟩, part_eq⟩ := agrees
      rw [← divides.2, List.append_assoc, decode_append, decode_of_read? text_eq, part_eq, text_eq]
      simp only [later, induction]
      rfl

/-- Bytes held back may as well be put in front of a chunk that is decoded as a whole. -/
theorem Settled.lossy_append {held : List UInt8} (settled : Settled held) (chunk : List UInt8) :
    lossy (held ++ chunk) = Utf8.decode held chunk := by
  rw [lossy_eq_decode, decode_append, settled]
  rfl

end RoguePilot.Text.Utf8
