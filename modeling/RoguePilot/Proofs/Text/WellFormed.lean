import RoguePilot.Proofs.Text.Encoding
import RoguePilot.Proofs.Text.Validation

/-!
# Well-formed bytes

Bytes that can be read are the bytes of what is read, so a text and its bytes stand for each other. Bytes
are held back only as long as some character begins with them and is longer.
-/

namespace RoguePilot.Text.Utf8

/-! ## The bytes of a number -/

section Numbers

variable {code : Nat}

theorem toNat_char (valid : code.isValidChar) : (Char.ofNat code).val.toNat = code := by
  rw [Char.ofNat, dif_pos valid]
  rfl

theorem encodeChar_single (small : code < 0x80) :
    String.utf8EncodeChar (Char.ofNat code) = [UInt8.ofNat code] := by
  have code_eq : (Char.ofNat code).val.toNat = code := toNat_char (.inl (by omega))
  simp only [String.utf8EncodeChar, code_eq]
  rw [if_pos (by omega)]

theorem encodeChar_pair (long : 0x80 ≤ code) (short : code < 0x800) :
    String.utf8EncodeChar (Char.ofNat code) =
      [UInt8.ofNat (code / 64 % 32 + 192), UInt8.ofNat (code % 64 + 128)] := by
  have code_eq : (Char.ofNat code).val.toNat = code := toNat_char (.inl (by omega))
  simp only [String.utf8EncodeChar, code_eq]
  rw [if_neg (by omega), if_pos (by omega)]

theorem encodeChar_triple (long : 0x800 ≤ code) (short : code < 0x10000)
    (scalar : code < 0xD800 ∨ 0xDFFF < code) :
    String.utf8EncodeChar (Char.ofNat code) =
      [UInt8.ofNat (code / 4096 % 16 + 224), UInt8.ofNat (code / 64 % 64 + 128),
        UInt8.ofNat (code % 64 + 128)] := by
  have code_eq : (Char.ofNat code).val.toNat = code :=
    toNat_char (scalar.imp_right fun above => ⟨above, by omega⟩)
  simp only [String.utf8EncodeChar, code_eq]
  rw [if_neg (by omega), if_neg (by omega), if_pos (by omega)]

theorem encodeChar_quadruple (long : 0x10000 ≤ code) (short : code < 0x110000) :
    String.utf8EncodeChar (Char.ofNat code) =
      [UInt8.ofNat (code / 262144 % 8 + 240), UInt8.ofNat (code / 4096 % 64 + 128),
        UInt8.ofNat (code / 64 % 64 + 128), UInt8.ofNat (code % 64 + 128)] := by
  have code_eq : (Char.ofNat code).val.toNat = code := toNat_char (.inr ⟨by omega, by omega⟩)
  simp only [String.utf8EncodeChar, code_eq]
  rw [if_neg (by omega), if_neg (by omega), if_neg (by omega)]

end Numbers

/-! ## Whole characters -/

section Characters

variable {lead second third fourth : UInt8} {character : Char}

theorem ofNat_of_toNat {value : Nat} (byte : UInt8) (same : value = byte.toNat) :
    UInt8.ofNat value = byte := by
  rw [same, UInt8.ofNat_toNat]

theorem bounds_of_isContinuation {byte : UInt8} (continues : isContinuation byte = true) :
    0x80 ≤ byte.toNat ∧ byte.toNat ≤ 0xBF := by
  rw [isContinuation, Bool.and_eq_true, decide_eq_true_eq, decide_eq_true_eq] at continues
  exact continues

/-- What a second byte satisfies after a lead. -/
structure SecondBounds (lead second : UInt8) : Prop where
  /-- It goes on with a character. -/
  continuation : 0x80 ≤ second.toNat ∧ second.toNat ≤ 0xBF
  /-- A character of three bytes does not fit into fewer. -/
  overlong : lead.toNat = 0xE0 → 0xA0 ≤ second.toNat
  /-- It is no surrogate. -/
  surrogate : lead.toNat = 0xED → second.toNat ≤ 0x9F
  /-- A character of four bytes does not fit into fewer. -/
  overlong_fourth : lead.toNat = 0xF0 → 0x90 ≤ second.toNat
  /-- It does not lie beyond the last character. -/
  excess : lead.toNat = 0xF4 → second.toNat ≤ 0x8F

theorem secondBounds_of_admitsSecond (admits : admitsSecond lead second = true) :
    SecondBounds lead second := by
  rw [admitsSecond, Bool.and_eq_true] at admits
  obtain ⟨continues, narrower⟩ := admits
  simp only [UInt8.le_iff_toNat_le, ← UInt8.toNat_inj] at narrower
  exact {
    continuation := bounds_of_isContinuation continues
    overlong := by grind
    surrogate := by grind
    overlong_fourth := by grind
    excess := by grind }

theorem encodeChar_of_standing_single (complete : standing [lead] = .complete character) :
    String.utf8EncodeChar character = [lead] := by
  rw [standing] at complete
  split at complete
  · next small =>
    cases complete
    rw [encodeChar_single (UInt8.lt_iff_toNat_lt.mp small), UInt8.ofNat_toNat]
  · split at complete
    · cases complete
    · cases complete

theorem encodeChar_of_standing_pair (long : 0xC2 ≤ lead)
    (complete : standing [lead, second] = .complete character) :
    String.utf8EncodeChar character = [lead, second] := by
  have lead_lower : 0xC2 ≤ lead.toNat := UInt8.le_iff_toNat_le.mp long
  rw [standing] at complete
  split at complete
  · cases complete
  · next admits =>
    split at complete
    · next short =>
      cases complete
      have lead_upper : lead.toNat < 0xE0 := UInt8.lt_iff_toNat_lt.mp short
      have bounds := (secondBounds_of_admitsSecond (by simpa using admits)).continuation
      rw [lowBits, encodeChar_pair (by omega) (by omega), ofNat_of_toNat lead (by omega),
        ofNat_of_toNat second (by omega)]
    · cases complete

theorem encodeChar_of_standing_triple (long : ¬ lead < 0xE0) (admits : admitsSecond lead second = true)
    (complete : standing [lead, second, third] = .complete character) :
    String.utf8EncodeChar character = [lead, second, third] := by
  have lead_lower : 0xE0 ≤ lead.toNat := UInt8.le_iff_toNat_le.mp (UInt8.not_lt.mp long)
  have second_bounds := secondBounds_of_admitsSecond admits
  have continuation := second_bounds.continuation
  have overlong := second_bounds.overlong
  have surrogate := second_bounds.surrogate
  rw [standing] at complete
  split at complete
  · cases complete
  · next continues =>
    split at complete
    · next short =>
      cases complete
      have lead_upper : lead.toNat < 0xF0 := UInt8.lt_iff_toNat_lt.mp short
      have third_bounds := bounds_of_isContinuation (by simpa using continues)
      rw [lowBits, lowBits, encodeChar_triple (by omega) (by omega) (by omega),
        ofNat_of_toNat lead (by omega), ofNat_of_toNat second (by omega),
        ofNat_of_toNat third (by omega)]
    · cases complete

theorem encodeChar_of_standing_quadruple (long : ¬ lead < 0xF0) (last : lead ≤ 0xF4)
    (admits : admitsSecond lead second = true) (continues : isContinuation third = true)
    (complete : standing [lead, second, third, fourth] = .complete character) :
    String.utf8EncodeChar character = [lead, second, third, fourth] := by
  have lead_lower : 0xF0 ≤ lead.toNat := UInt8.le_iff_toNat_le.mp (UInt8.not_lt.mp long)
  have lead_upper : lead.toNat ≤ 0xF4 := UInt8.le_iff_toNat_le.mp last
  have second_bounds := secondBounds_of_admitsSecond admits
  have continuation := second_bounds.continuation
  have overlong := second_bounds.overlong_fourth
  have excess := second_bounds.excess
  have third_bounds := bounds_of_isContinuation continues
  rw [standing] at complete
  split at complete
  · cases complete
  · next ends =>
    cases complete
    have fourth_bounds := bounds_of_isContinuation (by simpa using ends)
    rw [lowBits, lowBits, lowBits, encodeChar_quadruple (by omega) (by omega),
      ofNat_of_toNat lead (by omega), ofNat_of_toNat second (by omega),
      ofNat_of_toNat third (by omega), ofNat_of_toNat fourth (by omega)]

end Characters

section Parts

variable {held : List UInt8} {range : Range} {ranges : List Range} {byte : UInt8} {character : Char}

/-- The byte that completes a character completes the bytes of it. -/
theorem Pending.encodeChar_of_complete (pending : Pending held range ranges)
    (complete : standing (held ++ [byte]) = .complete character) :
    String.utf8EncodeChar character = held ++ [byte] := by
  cases pending with
  | lead known => exact encodeChar_of_standing_pair (introduces_of_followers known).long.1 complete
  | next pending admitted =>
      cases pending with
      | lead known =>
          have introduces := introduces_of_followers known
          have long := mt introduces.eq_nil_iff.mpr (List.cons_ne_nil _ _)
          rw [← introduces.admitsSecond_eq] at admitted
          exact encodeChar_of_standing_triple long admitted complete
      | next pending admitted_second =>
          cases pending with
          | lead known =>
              have introduces := introduces_of_followers known
              obtain ⟨third_eq, last_iff⟩ := introduces.third
              have long := mt last_iff.mpr (List.cons_ne_nil _ _)
              rw [← introduces.admitsSecond_eq] at admitted_second
              rw [third_eq] at admitted
              exact encodeChar_of_standing_quadruple long introduces.long.2 admitted_second admitted complete
          | next pending _ =>
              have bounds := pending.length_bounds
              simp only [List.length_cons] at bounds
              omega

/-- The bytes are what can be held back: none, or the start of a character. -/
inductive Withheld : List UInt8 → Prop where
  /-- Nothing is held back. -/
  | nothing : Withheld []
  /-- A character has begun. -/
  | pending {held : List UInt8} {range : Range} {ranges : List Range}
    (pending : Pending held range ranges) : Withheld held

theorem Withheld.encodeChar_of_complete (withheld : Withheld held)
    (complete : standing (held ++ [byte]) = .complete character) :
    String.utf8EncodeChar character = held ++ [byte] := by
  cases withheld with
  | nothing => exact encodeChar_of_standing_single complete
  | pending pending => exact pending.encodeChar_of_complete complete

theorem withheld_lead (unfinished : standing [byte] = .unfinished) : Withheld [byte] := by
  cases known : followers byte with
  | none => simp [standing_unknown known] at unfinished
  | some ranges =>
      cases ranges with
      | nil => simp [standing_alone known] at unfinished
      | cons range ranges => exact .pending (.lead known)

theorem Withheld.of_unfinished (withheld : Withheld held)
    (unfinished : standing (held ++ [byte]) = .unfinished) : Withheld (held ++ [byte]) := by
  cases withheld with
  | nothing => exact withheld_lead unfinished
  | @pending _ range ranges pending =>
      have expects := pending.expects
      cases admitted : range.admits byte with
      | false => simp [expects.illFormed byte admitted] at unfinished
      | true =>
          cases ranges with
          | nil =>
              obtain ⟨character, complete⟩ := expects.complete byte admitted rfl
              simp [complete] at unfinished
          | cons later ranges => exact .pending (pending.next admitted)

theorem Withheld.decode (withheld : Withheld held) (bytes : List UInt8) :
    Withheld (decode held bytes).1 :=
  holds_decode .nothing Withheld.of_unfinished withheld bytes

/-- What is read is written with the bytes it was read from. -/
theorem Withheld.encode_of_read? {bytes : List UInt8} {text : List Char} (withheld : Withheld held)
    (known : read? held bytes = some text) : encode text = held ++ bytes := by
  fun_induction read? held bytes generalizing text with
  | case1 =>
      cases known
      rfl
  | case2 => cases known
  | case3 held byte bytes character complete induction =>
      obtain ⟨later, later_eq, rfl⟩ := Option.map_eq_some_iff.mp known
      have later_bytes : encode later = bytes := induction .nothing later_eq
      calc encode (character :: later)
        _ = String.utf8EncodeChar character ++ encode later := List.flatMap_cons
        _ = held ++ [byte] ++ bytes := by rw [withheld.encodeChar_of_complete complete, later_bytes]
        _ = held ++ byte :: bytes := (List.append_cons held byte bytes).symm
  | case4 held byte bytes unfinished induction =>
      rw [List.append_cons]
      exact induction (withheld.of_unfinished unfinished) known
  | case5 => cases known

end Parts

/-! ## What the bytes held back can become -/

theorem admits_least_of_followers {lead : UInt8} {ranges : List Range}
    (known : followers lead = some ranges) : ∀ range ∈ ranges, range.admits range.least = true := by
  revert known
  fun_cases followers lead
  all_goals
    intro known
    cases known
  all_goals simp [Range.admits]

theorem Pending.admits_least {held : List UInt8} {range : Range} {ranges : List Range}
    (pending : Pending held range ranges) :
    ∀ due ∈ range :: ranges, due.admits due.least = true := by
  induction pending with
  | lead known => exact admits_least_of_followers known
  | next pending admitted induction => exact (List.forall_mem_cons.mp induction).2

/-- Some character begins with bytes that await others: the least ones that are due complete it. -/
theorem Pending.exists_encodeChar {held : List UInt8} {range : Range} {ranges : List Range}
    (pending : Pending held range ranges) :
    ∃ character rest, rest ≠ [] ∧ String.utf8EncodeChar character = held ++ rest := by
  have admitted := pending.admits_least range List.mem_cons_self
  induction ranges generalizing held range with
  | nil =>
      obtain ⟨character, complete⟩ := pending.expects.complete range.least admitted rfl
      exact ⟨character, [range.least], List.cons_ne_nil _ _, pending.encodeChar_of_complete complete⟩
  | cons later ranges induction =>
      have longer := pending.next admitted
      obtain ⟨character, rest, -, bytes_eq⟩ :=
        induction longer (longer.admits_least later List.mem_cons_self)
      refine ⟨character, range.least :: rest, List.cons_ne_nil _ _, ?_⟩
      rw [bytes_eq, List.append_assoc]
      rfl

theorem Pending.isPrefix_encodeChar {held : List UInt8} {range : Range} {ranges : List Range}
    (pending : Pending held range ranges) :
    ∃ character, held <+: String.utf8EncodeChar character ∧ held ≠ String.utf8EncodeChar character := by
  obtain ⟨character, rest, rest_ne, bytes_eq⟩ := pending.exists_encodeChar
  refine ⟨character, ⟨rest, bytes_eq.symm⟩, fun same => rest_ne ?_⟩
  rw [bytes_eq] at same
  exact List.self_eq_append_right.mp same

/-- Bytes are well-formed exactly if they are those of a text, which is then what they are read as. -/
theorem text?_eq_some_iff {bytes : List UInt8} {text : List Char} :
    text? bytes = some text ↔ encode text = bytes := by
  constructor
  · exact Withheld.nothing.encode_of_read?
  · rintro rfl
    exact text?_encode text

end RoguePilot.Text.Utf8
