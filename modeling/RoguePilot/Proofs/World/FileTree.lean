import RoguePilot.World.FileTree

/-!
# Reading what was written

A file that was given content has it. Writing leaves the way to the file as it is, because the file is
none of the directories on it.
-/

namespace RoguePilot.World.FileTree

variable {tree after : FileTree} {current place other : Place} {node : Node}

theorem node?_put_self (below : place ≠ []) : (tree.put place node).node? place = some node := by
  rw [node?, List.isEmpty_eq_false_iff.mpr below, if_neg Bool.false_ne_true, put, List.lookup_cons_self]

theorem lookup_filter_of_ne (different : other ≠ place) (nodes : List (Place × Node)) :
    (nodes.filter fun entry => entry.1 ≠ place).lookup other = nodes.lookup other := by
  have elsewhere : (other == place) = false := beq_eq_false_iff_ne.mpr different
  induction nodes with
  | nil => rfl
  | cons entry nodes induction =>
      rw [List.filter_cons]
      by_cases same : entry.1 = place
      · rw [decide_eq_false (not_not_intro same), if_neg Bool.false_ne_true, induction, List.lookup_cons,
          same, elsewhere]
      · rw [decide_eq_true same, if_pos rfl, List.lookup_cons, List.lookup_cons, induction]

theorem node?_put_of_ne (different : other ≠ place) :
    (tree.put place node).node? other = tree.node? other := by
  rw [node?, node?]
  split
  · rfl
  · rw [put, List.lookup_cons, beq_eq_false_iff_ne.mpr different]
    exact lookup_filter_of_ne different tree.nodes

/-- A way leads through directories only. -/
theorem walk_put (not_directory : tree.node? place ≠ some .directory) {start target : Place} {names : List String}
    (leads : tree.walk start names = .ok target) : (tree.put place node).walk start names = .ok target := by
  induction names generalizing start with
  | nil => exact leads
  | cons name names induction =>
      rw [walk] at leads ⊢
      cases here : tree.node? start with
      | none =>
          rw [here] at leads
          cases leads
      | some found =>
          cases found with
          | file content =>
              rw [here] at leads
              cases leads
          | directory =>
              have different : start ≠ place := by
                rintro rfl
                exact not_directory here
              rw [here] at leads
              rw [node?_put_of_ne different, here]
              simp only at leads ⊢
              split at leads
              · next stays => rw [if_pos stays, induction leads]
              · next moves =>
                rw [if_neg moves]
                split at leads
                · next up => rw [if_pos up, induction leads]
                · next down => rw [if_neg down, induction leads]

theorem resolve_put (not_directory : tree.node? place ≠ some .directory) {path : String} {target : Place}
    (leads : tree.resolve current path = .ok target) :
    (tree.put place node).resolve current path = .ok target := by
  rw [resolve] at leads ⊢
  split at leads
  · cases leads
  · next some =>
    rw [if_neg some]
    split at leads
    · cases leads
    · next good =>
      rw [if_neg good]
      exact walk_put not_directory leads

/-- A file that was written has the content it was given. -/
theorem readFile_writeFile {path : String} {content : List UInt8}
    (written : tree.writeFile current path content = .ok after) :
    after.readFile current path = .ok content := by
  cases leads : tree.resolve current path with
  | error fault =>
      rw [writeFile, leads] at written
      cases written
  | ok place =>
      have not_directory : tree.node? place ≠ some .directory := by
        intro found
        rw [writeFile, leads] at written
        simp only [bind, Except.bind, found] at written
        cases written
      have after_eq : after = tree.put place (.file content) := by
        rw [writeFile, leads] at written
        simp only [bind, Except.bind] at written
        exact (Except.ok.inj written).symm
      have below : place ≠ [] := by
        rintro rfl
        exact not_directory rfl
      rw [after_eq, readFile, find, resolve_put not_directory leads]
      simp only [bind, Except.bind, node?_put_self below]
      rfl

end RoguePilot.World.FileTree
