import RoguePilot.Proofs.Toml.Written

/-!
# The table of written sections

Where the sections have different names and the settings of each have different keys, every statement of a
document adds to the end of what is there, so the document is read back as the table of its sections.
-/

namespace RoguePilot.Toml

namespace Table

variable {table : Table} {key : String} {value : Value}

theorem get?_of_notMem (absent : key ∉ table.map Prod.fst) : table.get? key = none := by
  rw [get?, List.lookup_eq_none_iff]
  intro entry member
  rw [bne_iff_ne]
  rintro rfl
  exact absent (List.mem_map_of_mem member)

theorem get?_concat (absent : key ∉ table.map Prod.fst) :
    get? (table ++ [(key, value)]) key = some value := by
  have before : table.lookup key = none := get?_of_notMem absent
  rw [get?, List.lookup_append, before, List.lookup_cons_self, Option.none_or]

theorem replace_concat (absent : key ∉ table.map Prod.fst) (changed : Value) :
    replace key changed (table ++ [(key, value)]) = table ++ [(key, changed)] := by
  induction table with
  | nil => exact if_pos rfl
  | cons entry table induction =>
      rw [List.map_cons, List.mem_cons, not_or] at absent
      rw [List.cons_append, replace, if_neg (Ne.symm absent.1), induction absent.2]
      rfl

theorem define_of_notMem (absent : key ∉ table.map Prod.fst) :
    define [] key value .header table = .ok (table ++ [(key, value)]) := by
  rw [define, descend, get?_of_notMem absent]
  rfl

theorem openTable_of_notMem (absent : key ∉ table.map Prod.fst) :
    openTable [] key table = .ok (table ++ [(key, .table .header [])]) := by
  rw [openTable, descend, get?_of_notMem absent]

end Table

/-- The entry that a setting becomes. -/
def entryOf (setting : String × Written) : String × Value :=
  (setting.1, setting.2.toValue)

/-- The entry that a section becomes. -/
def Section.toEntry (part : Section) : String × Value :=
  (part.name, .table .header (part.settings.map entryOf))

namespace Draft

variable {name : String} {before inner : Table}

theorem state_definition {setting : String × Written} (fresh : name ∉ before.map Prod.fst)
    (absent : setting.1 ∉ inner.map Prod.fst) :
    state ⟨[name], before ++ [(name, .table .header inner)]⟩ (definition setting) =
      .ok ⟨[name], before ++ [(name, .table .header (inner ++ [entryOf setting]))]⟩ := by
  have added : Table.descend false
      (fun origin table => table.define [] setting.1 setting.2.toValue origin) [name] .header
        (before ++ [(name, .table .header inner)]) =
          .ok (before ++ [(name, .table .header (inner ++ [entryOf setting]))]) := by
    rw [Table.descend, Table.get?_concat fresh]
    simp only [Table.descend, Table.define_of_notMem absent]
    exact congrArg Except.ok (Table.replace_concat fresh _)
  rw [definition, state, added]
  rfl

/-- The settings of a section come behind each other. -/
theorem foldlM_definitions {settings : List (String × Written)} (fresh : name ∉ before.map Prod.fst)
    (different : (inner.map Prod.fst ++ settings.map Prod.fst).Nodup) :
    (settings.map definition).foldlM state ⟨[name], before ++ [(name, .table .header inner)]⟩ =
      .ok ⟨[name], before ++ [(name, .table .header (inner ++ settings.map entryOf))]⟩ := by
  induction settings generalizing inner with
  | nil =>
      rw [List.map_nil, List.map_nil, List.append_nil]
      rfl
  | cons setting settings induction =>
      have absent : setting.1 ∉ inner.map Prod.fst := fun member =>
        (List.nodup_append.mp different).2.2 _ member _ List.mem_cons_self rfl
      have later : ((inner ++ [entryOf setting]).map Prod.fst ++ settings.map Prod.fst).Nodup := by
        rw [List.map_append, List.append_assoc]
        exact different
      rw [List.map_cons, List.foldlM_cons, state_definition fresh absent]
      refine (induction later).trans ?_
      rw [List.append_assoc]
      rfl

/-- So do the sections. -/
theorem foldlM_sections {parts : List Section} (header : List String) (before : Table)
    (different : (before.map Prod.fst ++ parts.map Section.name).Nodup)
    (keys : ∀ part ∈ parts, (part.settings.map Prod.fst).Nodup) :
    ∃ last, (parts.flatMap Section.statements).foldlM state ⟨header, before⟩ =
      .ok ⟨last, before ++ parts.map Section.toEntry⟩ := by
  induction parts generalizing header before with
  | nil =>
      refine ⟨header, ?_⟩
      rw [List.map_nil, List.append_nil]
      rfl
  | cons part parts induction =>
      obtain ⟨here, others⟩ := List.forall_mem_cons.mp keys
      have fresh : part.name ∉ before.map Prod.fst := fun member =>
        (List.nodup_append.mp different).2.2 _ member _ List.mem_cons_self rfl
      have later : ((before ++ [part.toEntry]).map Prod.fst ++ parts.map Section.name).Nodup := by
        rw [List.map_append, List.append_assoc]
        exact different
      have opened : state ⟨header, before⟩ (.opens ⟨[], part.name⟩) =
          .ok ⟨[part.name], before ++ [(part.name, .table .header [])]⟩ := by
        rw [state, Table.openTable_of_notMem fresh]
        rfl
      have filled : (part.settings.map definition).foldlM state
          ⟨[part.name], before ++ [(part.name, .table .header [])]⟩ =
            .ok ⟨[part.name], before ++ [part.toEntry]⟩ := foldlM_definitions fresh here
      obtain ⟨last, rest⟩ := induction [part.name] (before ++ [part.toEntry]) later others
      refine ⟨last, ?_⟩
      rw [List.flatMap_cons, List.foldlM_append, Section.statements, List.foldlM_cons, opened]
      change ((part.settings.map definition).foldlM state
        ⟨[part.name], before ++ [(part.name, .table .header [])]⟩ >>= _) = _
      rw [filled]
      refine rest.trans ?_
      rw [List.append_assoc]
      rfl

end Draft

/-- The sections can be told apart, and so can the settings of each. -/
structure Section.Distinct (parts : List Section) : Prop where
  names : (parts.map Section.name).Nodup
  keys : ∀ part ∈ parts, (part.settings.map Prod.fst).Nodup

/-- A document that is written is read back as the table of its sections. -/
theorem parse_render {parts : List Section} (readable : ∀ part ∈ parts, part.IsReadable)
    (distinct : Section.Distinct parts) : parse (render parts) = .ok (Section.toTable parts) := by
  obtain ⟨last, folded⟩ := Draft.foldlM_sections [] [] distinct.names distinct.keys
  rw [parse, statements_render readable]
  change tableOf (parts.flatMap Section.statements) = _
  rw [tableOf, folded]
  rfl

end RoguePilot.Toml
