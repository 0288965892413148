import RoguePilot.Proofs.Text.Validation
import RoguePilot.Session

/-!
# Chunks of a session

A session can also take a chunk as a whole: put the bytes held back in front of it, validate and
decode the lot, and hold back what is cut off at its end. What a session holds back is always such a
cut, so this comes to the same as receiving the chunk byte by byte, and where the output of a child
is cut into chunks makes no difference.
-/

namespace RoguePilot.Session

/-- Takes a chunk as a whole: the session after it, and the text that became readable. -/
def absorb (session : Session) (chunk : List UInt8) : Session × List Char :=
  let decoded := Text.Utf8.lossy (session.held ++ chunk)
  (⟨decoded.1, session.console.display decoded.2⟩, decoded.2)

/-- Takes chunks one after the other: the session after them, and all the text. -/
def absorbAll (session : Session) : List (List UInt8) → Session × List Char
  | [] => (session, [])
  | chunk :: chunks =>
      let after := session.absorb chunk
      let later := after.1.absorbAll chunks
      (later.1, after.2 ++ later.2)

/-- Receives chunks one after the other: the session after them, and all the text. -/
def receiveAll (session : Session) : List (List UInt8) → Session × List Char
  | [] => (session, [])
  | chunk :: chunks =>
      let after := session.receive chunk
      let later := after.1.receiveAll chunks
      (later.1, after.2 ++ later.2)

theorem absorb_eq_receive {session : Session} (settled : Text.Utf8.Settled session.held)
    (chunk : List UInt8) : session.absorb chunk = session.receive chunk := by
  rw [absorb, settled.lossy_append, receive]

theorem settled_receive {session : Session} (settled : Text.Utf8.Settled session.held)
    (chunk : List UInt8) : Text.Utf8.Settled (session.receive chunk).1.held :=
  settled.decode chunk

theorem absorbAll_eq_receiveAll {session : Session} (settled : Text.Utf8.Settled session.held)
    (chunks : List (List UInt8)) : session.absorbAll chunks = session.receiveAll chunks := by
  induction chunks generalizing session with
  | nil => rfl
  | cons chunk chunks induction =>
      rw [absorbAll, receiveAll, absorb_eq_receive settled,
        induction (settled_receive settled chunk)]

theorem receiveAll_eq_receive (session : Session) (chunks : List (List UInt8)) :
    session.receiveAll chunks = session.receive chunks.flatten := by
  induction chunks generalizing session with
  | nil => rfl
  | cons chunk chunks induction =>
      rw [receiveAll, List.flatten_cons, receive_append, induction]

/-- Receiving chunks and then more of them is receiving them all. -/
theorem receiveAll_append (session : Session) (left right : List (List UInt8)) :
    session.receiveAll (left ++ right) =
      (((session.receiveAll left).1.receiveAll right).1,
        (session.receiveAll left).2 ++ ((session.receiveAll left).1.receiveAll right).2) := by
  simp only [receiveAll_eq_receive, List.flatten_append, receive_append]

/--
However the output of a child is cut into chunks, a session that was just started ends in the same
state and has read the same text as if it had taken all of it at once; and taking chunks as a whole
is receiving them byte by byte.
-/
theorem chunks_immaterial (size : Size) (chunks : List (List UInt8)) :
    (start size).absorbAll chunks = (start size).absorb chunks.flatten ∧
      (start size).receiveAll chunks = (start size).receive chunks.flatten ∧
      (start size).absorb chunks.flatten = (start size).receive chunks.flatten := by
  have settled : Text.Utf8.Settled (start size).held := Text.Utf8.settled_nil
  have at_once := absorb_eq_receive settled chunks.flatten
  refine ⟨?_, receiveAll_eq_receive _ chunks, at_once⟩
  rw [absorbAll_eq_receiveAll settled, receiveAll_eq_receive, at_once]

end RoguePilot.Session
