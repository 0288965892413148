import RoguePilot.Proofs.Session.Chunks
import RoguePilot.Proofs.Text.WellFormed

/-!
# What a session holds back

A session holds back no more than the start of one character. So nothing of a text is lost or late, however
its bytes are cut into chunks.
-/

namespace RoguePilot.Session

variable {session : Session}

/-- The bytes of a text are read as the text, and none of them is left over. -/
theorem receiveAll_encode (nothing : session.held = []) {chunks : List (List UInt8)} {text : List Char}
    (bytes_eq : chunks.flatten = Text.Utf8.encode text) :
    (session.receiveAll chunks).2 = text ∧ (session.receiveAll chunks).1.held = [] := by
  have known : Text.Utf8.text? chunks.flatten = some text :=
    Text.Utf8.text?_eq_some_iff.mpr bytes_eq.symm
  have decoded : Text.Utf8.decode session.held chunks.flatten = ([], text) := by
    rw [nothing]
    exact Text.Utf8.decode_of_read? known
  rw [receiveAll_eq_receive, receive, decoded]
  exact ⟨rfl, rfl⟩

theorem withheld_receiveAll (withheld : Text.Utf8.Withheld session.held) (chunks : List (List UInt8)) :
    Text.Utf8.Withheld (session.receiveAll chunks).1.held := by
  rw [receiveAll_eq_receive]
  exact withheld.decode chunks.flatten

/--
With nothing held back to begin with, chunks that make up the bytes of a text are read as that text, and
nothing is held back after them. Whatever the chunks are, what is held back after them is either nothing or
between one and three bytes with which some character begins, but not the whole of it. Both are so whether
chunks are taken as a whole or byte by byte.
-/
theorem text_survives_chunks (nothing : session.held = []) (chunks : List (List UInt8)) :
    session.absorbAll chunks = session.receiveAll chunks ∧
      (∀ text, chunks.flatten = Text.Utf8.encode text →
        (session.receiveAll chunks).2 = text ∧ (session.receiveAll chunks).1.held = []) ∧
      ((session.receiveAll chunks).1.held = [] ∨
        1 ≤ (session.receiveAll chunks).1.held.length ∧ (session.receiveAll chunks).1.held.length ≤ 3 ∧
          ∃ character, (session.receiveAll chunks).1.held <+: String.utf8EncodeChar character ∧
            (session.receiveAll chunks).1.held ≠ String.utf8EncodeChar character) := by
  have settled : Text.Utf8.Settled session.held := nothing ▸ Text.Utf8.settled_nil
  have withheld : Text.Utf8.Withheld (session.receiveAll chunks).1.held :=
    withheld_receiveAll (nothing ▸ .nothing) chunks
  refine ⟨absorbAll_eq_receiveAll settled chunks, fun text => receiveAll_encode nothing, ?_⟩
  generalize (session.receiveAll chunks).1.held = held at withheld
  cases withheld with
  | nothing => exact .inl rfl
  | pending pending =>
      have bounds := pending.length_bounds
      exact .inr ⟨bounds.1, by omega, pending.isPrefix_encodeChar⟩

/-- A shaded block cut after its second byte is held back until its third one, and then read. -/
theorem text_survives_chunks_shade :
    (start ⟨80, 24⟩).held = [] ∧ [[0x61, 0xE2, 0x96], [0x93]].flatten = Text.Utf8.encode ['a', '▓'] ∧
      ((start ⟨80, 24⟩).receiveAll [[0x61, 0xE2, 0x96], [0x93]]).2 = ['a', '▓'] ∧
      ((start ⟨80, 24⟩).receiveAll [[0x61, 0xE2, 0x96]]).1.held = [0xE2, 0x96] ∧
      ∃ character, [0xE2, 0x96] <+: String.utf8EncodeChar character ∧
        [0xE2, 0x96] ≠ String.utf8EncodeChar character := by
  have nothing : (start ⟨80, 24⟩).held = [] := rfl
  have bytes_eq : [[0x61, 0xE2, 0x96], [0x93]].flatten = Text.Utf8.encode ['a', '▓'] := by decide
  have held_eq : ((start ⟨80, 24⟩).receiveAll [[0x61, 0xE2, 0x96]]).1.held = [0xE2, 0x96] := by
    rw [receiveAll_eq_receive]
    decide
  have whole := (text_survives_chunks nothing [[0x61, 0xE2, 0x96], [0x93]]).2.1 _ bytes_eq
  have cut := (text_survives_chunks nothing [[0x61, 0xE2, 0x96]]).2.2
  rw [held_eq] at cut
  obtain nothing_held | ⟨-, -, begins⟩ := cut
  · cases nothing_held
  · exact ⟨nothing, bytes_eq, whole.1, held_eq, begins⟩

end RoguePilot.Session
