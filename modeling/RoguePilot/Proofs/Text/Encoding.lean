import RoguePilot.Text.Utf8

/-!
# Encoded texts

The bytes of a text are well-formed, and the text is read back from them.
-/

namespace RoguePilot.Text.Utf8

variable {lead second third fourth : UInt8}

theorem standing_single (small : lead.toNat < 0x80) :
    standing [lead] = .complete (Char.ofNat lead.toNat) := by
  have below : lead < 0x80 := UInt8.lt_iff_toNat_lt.mpr small
  rw [standing, if_pos below]

theorem standing_lead (bounds : 0xC2 ≤ lead.toNat ∧ lead.toNat ≤ 0xF4) :
    standing [lead] = .unfinished := by
  have not_below : ¬ lead < 0x80 := UInt8.not_lt.mpr (Nat.le_trans (by decide) bounds.1)
  have inside : (0xC2 ≤ lead && lead ≤ 0xF4 : Bool) = true := by
    rw [Bool.and_eq_true, decide_eq_true_eq, decide_eq_true_eq]
    exact bounds
  rw [standing, if_neg not_below, if_pos inside]

theorem isContinuation_of_bounds {byte : UInt8} (bounds : 0x80 ≤ byte.toNat ∧ byte.toNat < 0xC0) :
    isContinuation byte = true := by
  rw [isContinuation, Bool.and_eq_true, decide_eq_true_eq, decide_eq_true_eq]
  exact ⟨bounds.1, Nat.le_of_lt_succ bounds.2⟩

/-- The second byte excludes overlong forms, surrogates and what lies beyond the last character. -/
theorem admitsSecond_of_bounds (bounds : 0x80 ≤ second.toNat ∧ second.toNat < 0xC0)
    (overlong : lead.toNat = 0xE0 → 0xA0 ≤ second.toNat)
    (surrogate : lead.toNat = 0xED → second.toNat ≤ 0x9F)
    (overlong_fourth : lead.toNat = 0xF0 → 0x90 ≤ second.toNat)
    (excess : lead.toNat = 0xF4 → second.toNat ≤ 0x8F) : admitsSecond lead second = true := by
  rw [admitsSecond, isContinuation_of_bounds bounds, Bool.true_and]
  split
  · next same => exact decide_eq_true (overlong (congrArg UInt8.toNat same))
  · split
    · next same => exact decide_eq_true (surrogate (congrArg UInt8.toNat same))
    · split
      · next same => exact decide_eq_true (overlong_fourth (congrArg UInt8.toNat same))
      · split
        · next same => exact decide_eq_true (excess (congrArg UInt8.toNat same))
        · rfl

theorem standing_pair (short : lead.toNat < 0xE0) (admits : admitsSecond lead second = true) :
    standing [lead, second] =
      .complete (Char.ofNat (lead.toNat % 0x20 * 0x40 + lowBits second)) := by
  have below : lead < 0xE0 := UInt8.lt_iff_toNat_lt.mpr short
  rw [standing, admits, if_neg (by decide), if_pos below]

theorem standing_pair_unfinished (long : 0xE0 ≤ lead.toNat) (admits : admitsSecond lead second = true) :
    standing [lead, second] = .unfinished := by
  have not_below : ¬ lead < 0xE0 := UInt8.not_lt.mpr long
  rw [standing, admits, if_neg (by decide), if_neg not_below]

theorem standing_triple (short : lead.toNat < 0xF0) (continues : isContinuation third = true) :
    standing [lead, second, third] =
      .complete (Char.ofNat
        ((lead.toNat % 0x10 * 0x40 + lowBits second) * 0x40 + lowBits third)) := by
  have below : lead < 0xF0 := UInt8.lt_iff_toNat_lt.mpr short
  rw [standing, continues, if_neg (by decide), if_pos below]

theorem standing_triple_unfinished (long : 0xF0 ≤ lead.toNat) (continues : isContinuation third = true) :
    standing [lead, second, third] = .unfinished := by
  have not_below : ¬ lead < 0xF0 := UInt8.not_lt.mpr long
  rw [standing, continues, if_neg (by decide), if_neg not_below]

theorem standing_quadruple (continues : isContinuation fourth = true) :
    standing [lead, second, third, fourth] =
      .complete (Char.ofNat
        (((lead.toNat % 0x08 * 0x40 + lowBits second) * 0x40 + lowBits third) * 0x40 +
          lowBits fourth)) := by
  rw [standing, continues, if_neg (by decide)]

section Reading

variable {held bytes : List UInt8} {byte : UInt8}

theorem read?_of_complete {character : Char}
    (complete : standing (held ++ [byte]) = .complete character) :
    read? held (byte :: bytes) = (read? [] bytes).map (character :: ·) := by
  rw [read?, complete]

theorem read?_of_unfinished (unfinished : standing (held ++ [byte]) = .unfinished) :
    read? held (byte :: bytes) = read? (held ++ [byte]) bytes := by
  rw [read?, unfinished]

/-! A byte that goes on with a character holds six bits of its number. -/

theorem toNat_ofNat {value : Nat} (small : value < 0x100) : (UInt8.ofNat value).toNat = value :=
  UInt8.toNat_ofNat_of_lt' small

theorem toNat_low (value : Nat) : (UInt8.ofNat (value % 64 + 128)).toNat = value % 64 + 128 :=
  toNat_ofNat (by omega)

theorem bounds_low (value : Nat) : 0x80 ≤ (UInt8.ofNat (value % 64 + 128)).toNat ∧
    (UInt8.ofNat (value % 64 + 128)).toNat < 0xC0 := by
  rw [toNat_low]
  omega

theorem lowBits_low (value : Nat) : lowBits (UInt8.ofNat (value % 64 + 128)) = value % 64 := by
  rw [lowBits, toNat_low]
  omega

variable {code : Nat} (bytes)

theorem read?_single (small : code < 0x80) :
    read? [] (UInt8.ofNat code :: bytes) = (read? [] bytes).map (Char.ofNat code :: ·) := by
  have lead_toNat : (UInt8.ofNat code).toNat = code := toNat_ofNat (by omega)
  have whole : standing [UInt8.ofNat code] = .complete (Char.ofNat code) := by
    rw [standing_single (by omega), lead_toNat]
  exact read?_of_complete whole

theorem read?_pair (long : 0x80 ≤ code) (short : code < 0x800) :
    read? [] (UInt8.ofNat (code / 64 % 32 + 192) :: UInt8.ofNat (code % 64 + 128) :: bytes) =
      (read? [] bytes).map (Char.ofNat code :: ·) := by
  have lead_toNat : (UInt8.ofNat (code / 64 % 32 + 192)).toNat = code / 64 % 32 + 192 :=
    toNat_ofNat (by omega)
  have number : (code / 64 % 32 + 192) % 0x20 * 0x40 + code % 64 = code := by omega
  have begins : standing [UInt8.ofNat (code / 64 % 32 + 192)] = .unfinished := standing_lead (by omega)
  have admits : admitsSecond (UInt8.ofNat (code / 64 % 32 + 192)) (UInt8.ofNat (code % 64 + 128)) = true :=
    admitsSecond_of_bounds (bounds_low code) (by omega) (by omega) (by omega) (by omega)
  have whole : standing [UInt8.ofNat (code / 64 % 32 + 192), UInt8.ofNat (code % 64 + 128)] =
      .complete (Char.ofNat code) := by
    rw [standing_pair (by omega) admits, lowBits_low, lead_toNat, number]
  exact (read?_of_unfinished begins).trans (read?_of_complete whole)

theorem read?_triple (long : 0x800 ≤ code) (short : code < 0x10000)
    (scalar : code < 0xD800 ∨ 0xDFFF < code) :
    read? [] (UInt8.ofNat (code / 4096 % 16 + 224) :: UInt8.ofNat (code / 64 % 64 + 128) ::
      UInt8.ofNat (code % 64 + 128) :: bytes) = (read? [] bytes).map (Char.ofNat code :: ·) := by
  have lead_toNat : (UInt8.ofNat (code / 4096 % 16 + 224)).toNat = code / 4096 % 16 + 224 :=
    toNat_ofNat (by omega)
  have second_toNat := toNat_low (code / 64)
  have number : ((code / 4096 % 16 + 224) % 0x10 * 0x40 + code / 64 % 64) * 0x40 + code % 64 = code := by
    omega
  have begins : standing [UInt8.ofNat (code / 4096 % 16 + 224)] = .unfinished := standing_lead (by omega)
  have admits : admitsSecond (UInt8.ofNat (code / 4096 % 16 + 224))
      (UInt8.ofNat (code / 64 % 64 + 128)) = true :=
    admitsSecond_of_bounds (bounds_low (code / 64)) (by omega) (by omega) (by omega) (by omega)
  have goes_on : standing [UInt8.ofNat (code / 4096 % 16 + 224), UInt8.ofNat (code / 64 % 64 + 128)] =
      .unfinished := standing_pair_unfinished (by omega) admits
  have whole : standing [UInt8.ofNat (code / 4096 % 16 + 224), UInt8.ofNat (code / 64 % 64 + 128),
      UInt8.ofNat (code % 64 + 128)] = .complete (Char.ofNat code) := by
    rw [standing_triple (by omega) (isContinuation_of_bounds (bounds_low code)), lowBits_low, lowBits_low,
      lead_toNat, number]
  exact (read?_of_unfinished begins).trans ((read?_of_unfinished goes_on).trans (read?_of_complete whole))

theorem read?_quadruple (long : 0x10000 ≤ code) (short : code < 0x110000) :
    read? [] (UInt8.ofNat (code / 262144 % 8 + 240) :: UInt8.ofNat (code / 4096 % 64 + 128) ::
      UInt8.ofNat (code / 64 % 64 + 128) :: UInt8.ofNat (code % 64 + 128) :: bytes) =
        (read? [] bytes).map (Char.ofNat code :: ·) := by
  have lead_toNat : (UInt8.ofNat (code / 262144 % 8 + 240)).toNat = code / 262144 % 8 + 240 :=
    toNat_ofNat (by omega)
  have second_toNat := toNat_low (code / 4096)
  have number : (((code / 262144 % 8 + 240) % 0x08 * 0x40 + code / 4096 % 64) * 0x40 + code / 64 % 64) * 0x40 +
      code % 64 = code := by omega
  have begins : standing [UInt8.ofNat (code / 262144 % 8 + 240)] = .unfinished := standing_lead (by omega)
  have admits : admitsSecond (UInt8.ofNat (code / 262144 % 8 + 240))
      (UInt8.ofNat (code / 4096 % 64 + 128)) = true :=
    admitsSecond_of_bounds (bounds_low (code / 4096)) (by omega) (by omega) (by omega) (by omega)
  have goes_on : standing [UInt8.ofNat (code / 262144 % 8 + 240), UInt8.ofNat (code / 4096 % 64 + 128)] =
      .unfinished := standing_pair_unfinished (by omega) admits
  have nearly : standing [UInt8.ofNat (code / 262144 % 8 + 240), UInt8.ofNat (code / 4096 % 64 + 128),
      UInt8.ofNat (code / 64 % 64 + 128)] = .unfinished :=
    standing_triple_unfinished (by omega) (isContinuation_of_bounds (bounds_low (code / 64)))
  have whole : standing [UInt8.ofNat (code / 262144 % 8 + 240), UInt8.ofNat (code / 4096 % 64 + 128),
      UInt8.ofNat (code / 64 % 64 + 128), UInt8.ofNat (code % 64 + 128)] = .complete (Char.ofNat code) := by
    rw [standing_quadruple (isContinuation_of_bounds (bounds_low code)), lowBits_low, lowBits_low, lowBits_low,
      lead_toNat, number]
  exact (read?_of_unfinished begins).trans ((read?_of_unfinished goes_on).trans
    ((read?_of_unfinished nearly).trans (read?_of_complete whole)))

theorem read?_encodeChar (character : Char) :
    read? [] (String.utf8EncodeChar character ++ bytes) = (read? [] bytes).map (character :: ·) := by
  have valid : character.val.toNat < 0xD800 ∨
      0xDFFF < character.val.toNat ∧ character.val.toNat < 0x110000 := character.valid
  have ofNat_eq : Char.ofNat character.val.toNat = character := Char.ofNat_toNat character
  rw [String.utf8EncodeChar]
  generalize character.val.toNat = code at *
  subst ofNat_eq
  split
  · exact read?_single bytes (by omega)
  · split
    · exact read?_pair bytes (by omega) (by omega)
    · split
      · exact read?_triple bytes (by omega) (by omega) (by omega)
      · exact read?_quadruple bytes (by omega) (by omega)

end Reading

/-- A text is read back from its bytes. -/
theorem text?_encode (text : List Char) : text? (encode text) = some text := by
  induction text with
  | nil => rfl
  | cons character text induction =>
      rw [text?] at induction ⊢
      rw [encode, List.flatMap_cons, read?_encodeChar]
      exact congrArg (Option.map (character :: ·)) induction

/-! ## The bytes of a string -/

theorem toList_loop (bytes : ByteArray) (start : Nat) (read : List UInt8) :
    ByteArray.toList.loop bytes start read = read.reverse ++ bytes.data.toList.drop start := by
  fun_induction ByteArray.toList.loop bytes start read with
  | case1 start read more induction =>
      have bound : start < bytes.data.toList.length := more
      have byte_eq : bytes.get! start = bytes.data.toList[start] := getElem!_pos bytes.data start more
      rw [induction, List.reverse_cons, List.append_assoc, List.drop_eq_getElem_cons bound, byte_eq]
      rfl
  | case2 start read finished =>
      have past : bytes.data.toList.length ≤ start := Nat.le_of_not_lt finished
      rw [List.drop_eq_nil_of_le past, List.append_nil]

theorem toList_toUTF8 (text : String) : text.toUTF8.toList = encode text.toList := by
  have bytes_eq : text.toUTF8 = text.toList.utf8Encode := by
    rw [String.toUTF8_eq_toByteArray, ← String.toByteArray_ofList, String.ofList_toList]
  rw [ByteArray.toList, toList_loop, bytes_eq]
  exact List.toList_data_toByteArray

end RoguePilot.Text.Utf8
