import Mathlib.Data.String.Basic
import ScriptCatalog.Proofs.Catalog.Reachable
import ScriptCatalog.Proofs.Script.Definition

/-! Tables that are filled with the scripts of definitions in order. Whatever was defined again, the
name leads to the script of its last definition, and to the procedure of that. The names come in
order, each once, and all of them can be removed. -/

namespace ScriptCatalog

variable [Platform]

namespace Catalog

variable {named : String → Prop} {followed : Prop} {catalog : Catalog}
  {entries : List (String × ScriptId)} {procedures : List (String × Procedure)}

/-! The names of a table. -/

/-- The names of entries in order. -/
def sortedNames (entries : List (String × ScriptId)) : List String :=
  (keysOf entries).mergeSort fun left right => !decide (right < left)

theorem mem_sortedNames (name : String) (entries : List (String × ScriptId)) :
    name ∈ sortedNames entries ↔ name ∈ keysOf entries := List.mem_mergeSort

theorem nodup_sortedNames (distinct : (keysOf entries).Nodup) : (sortedNames entries).Nodup :=
  (List.mergeSort_perm _ _).nodup_iff.mpr distinct

/-- Each name comes once, and after those that are less. -/
theorem pairwise_sortedNames (distinct : (keysOf entries).Nodup) :
    (sortedNames entries).Pairwise (· < ·) := by
  have ordered : (sortedNames entries).Pairwise fun left right =>
      (!decide (right < left)) = true := by
    apply List.pairwise_mergeSort
    · intro first second third
      simp only [Bool.not_eq_true', decide_eq_false_iff_not, not_lt]
      exact le_trans
    · intro first second
      simp only [Bool.or_eq_true, Bool.not_eq_true', decide_eq_false_iff_not, not_lt]
      exact le_total first second
  refine (ordered.and (nodup_sortedNames distinct)).imp ?_
  rintro left right ⟨notAfter, different⟩
  simp only [Bool.not_eq_true', decide_eq_false_iff_not, not_lt] at notAfter
  exact lt_of_le_of_ne notAfter different

theorem expectOrdered_texts (names : List String) :
    Datum.expectOrdered (names.map .text) = .ok () := by
  induction names with
  | nil => rfl
  | cons first names ih =>
      cases names with
      | nil => rfl
      | cons second names => exact ih

theorem names_of_inStep (inStep : InStep named followed catalog entries procedures) :
    catalog.table.names = .ok ((sortedNames entries).map .text) := by
  have keys : catalog.table.entries.map (·.1) = (keysOf entries).map .text := by
    rw [inStep.tabled, keysOf_underTexts]
  rw [ScriptTable.names, keys, expectOrdered_texts]
  refine congrArg Except.ok (List.map_mergeSort ?_).symm
  intro left _ right _
  rfl

theorem contains_of_inStep (inStep : InStep named followed catalog entries procedures)
    (name : String) :
    catalog.table.contains (.text name) = .ok (entries.lookup name).isSome := by
  rw [ScriptTable.contains, find_underTexts catalog inStep.tabled]
  rfl

/-! Removing all of them. -/

theorem removeAll_of_inStep (inStep : InStep named followed catalog entries procedures)
    (names : List String) (apart : names.Nodup) (known : ∀ name ∈ names, name ∈ keysOf entries) :
    ∃ next entriesNext proceduresNext, removeAll (names.map .text) catalog = .ok () next ∧
      InStep named followed next entriesNext proceduresNext := by
  induction names generalizing catalog entries procedures with
  | nil => exact ⟨catalog, entries, procedures, rfl, inStep⟩
  | cons name names ih =>
      have there := (lookup_isSome_iff_mem_keysOf name entries).mpr (known name List.mem_cons_self)
      obtain ⟨id, found⟩ := Option.isSome_iff_exists.mp there
      obtain ⟨between, proceduresBetween, ran, inStepBetween, _⟩ := remove_inStep inStep found
      obtain ⟨new, others⟩ := List.nodup_cons.mp apart
      obtain ⟨next, entriesNext, proceduresNext, rest, inStepNext⟩ :=
        ih inStepBetween others fun other member => by
          rw [keysOf_eraseField]
          refine (List.mem_erase_of_ne ?_).mpr (known other (List.mem_cons_of_mem _ member))
          rintro rfl
          exact new member
      exact ⟨next, entriesNext, proceduresNext, (Act.bind_of_ok _ ran).trans rest, inStepNext⟩

theorem clear_of_inStep (inStep : InStep named followed catalog entries procedures) :
    ∃ next entriesNext proceduresNext, clear catalog = .ok () next ∧
      InStep named followed next entriesNext proceduresNext := by
  rw [clear, Act.get_bind, names_of_inStep inStep]
  exact removeAll_of_inStep inStep _ (nodup_sortedNames inStep.distinct) fun name member =>
    (mem_sortedNames name entries).mp member

/-! Filling a table. -/

/-- A table to which the scripts of the first definitions were added. The scripts have the numbers
of their definitions, and those that were not added yet are as they were defined. -/
structure Filled (definitions done : List Definition) (catalog : Catalog)
    (entries : List (String × ScriptId)) (procedures : List (String × Procedure)) : Prop where
  inStep : InStep (fun _ => True) False catalog entries procedures
  temporary : catalog.table.kind = .temporary
  unknown : ∀ name, Definition.last? name done = none → entries.lookup name = none
  last : ∀ name definition, Definition.last? name done = some definition →
    ∃ id, entries.lookup name = some id ∧ catalog.scripts[id]? = some definition.script
  added : ∀ name id, entries.lookup name = some id → id < done.length
  waiting : ∀ id definition, done.length ≤ id → definitions[id]? = some definition →
    catalog.scripts[id]? = some definition.script

variable {definitions done : List Definition}

theorem filled_start (definitions : List Definition) (journal : Journal) :
    Filled definitions []
      { start .temporary (definitions.map Definition.script) with journal } [] [] := by
  refine ⟨⟨rfl, rfl, List.nodup_nil, .refl _, nofun, nofun, nofun⟩, rfl, fun _ _ => rfl, nofun,
    nofun, ?_⟩
  intro id definition _ there
  simp only [start, List.getElem?_map, there, Option.map_some]

/-- Adding the next script. -/
theorem Filled.add {next : Definition} {rest : List Definition}
    (filled : Filled definitions done catalog entries procedures)
    (split : definitions = done ++ next :: rest) :
    ∃ after proceduresAfter, Catalog.add done.length catalog = .ok () after ∧
      Filled definitions (done ++ [next]) after (putField next.texts.name done.length entries)
        proceduresAfter := by
  have isNext : definitions[done.length]? = some next := by simp [split]
  have there := filled.waiting _ _ (le_refl _) isNext
  obtain ⟨after, proceduresAfter, ran, inStep, _, kind, kept⟩ :=
    add_inStep filled.inStep there next.texts.allTexts_profile rfl trivial
  refine ⟨after, proceduresAfter, ran, inStep, kind.trans filled.temporary, ?_, ?_, ?_, ?_⟩
  · intro name undefined
    rw [Definition.last?_append] at undefined
    rw [lookup_putField]
    cases same : next.texts.name == name with
    | true =>
        rw [same] at undefined
        cases undefined
    | false =>
        rw [same] at undefined
        rw [BEq.comm, same]
        exact filled.unknown name undefined
  · intro name definition last
    rw [Definition.last?_append] at last
    rw [lookup_putField, BEq.comm]
    cases same : next.texts.name == name with
    | true =>
        rw [same] at last
        cases last
        exact ⟨done.length, rfl, (kept _ (.inr rfl)).trans there⟩
    | false =>
        -- The script that another name leads to is not the one that was replaced.
        rw [same] at last
        obtain ⟨id, found, held⟩ := filled.last name definition last
        refine ⟨id, found, (kept id (.inl fun replaced => ?_)).trans held⟩
        rw [filled.inStep.name_eq found replaced, beq_self_eq_true] at same
        cases same
  · intro name id found
    rw [lookup_putField] at found
    rw [List.length_append, List.length_singleton]
    cases same : name == next.texts.name with
    | true =>
        rw [same] at found
        cases found
        exact Nat.lt_succ_self _
    | false =>
        rw [same] at found
        exact Nat.lt_succ_of_lt (filled.added name id found)
  · intro id definition beyond isThere
    rw [List.length_append, List.length_singleton] at beyond
    have waited := filled.waiting id definition (Nat.le_of_succ_le beyond) isThere
    refine (kept id (.inl fun replaced => ?_)).trans waited
    exact absurd (filled.added _ id replaced) (Nat.not_lt.mpr (Nat.le_of_succ_le beyond))

/-! A table that is full. -/

/-- A table to which all scripts were added. -/
abbrev Full (definitions : List Definition) (catalog : Catalog)
    (entries : List (String × ScriptId)) (procedures : List (String × Procedure)) : Prop :=
  Filled definitions definitions catalog entries procedures

variable {name : String} {definition : Definition}

theorem Filled.mem_names (filled : Filled definitions done catalog entries procedures)
    (name : String) :
    name ∈ sortedNames entries ↔ ∃ definition ∈ done, definition.texts.name = name := by
  rw [mem_sortedNames, ← lookup_isSome_iff_mem_keysOf]
  cases last : Definition.last? name done with
  | none =>
      rw [filled.unknown name last]
      have absent := (Definition.last?_eq_none_iff name done).mp last
      simpa using absent
  | some definition =>
      obtain ⟨id, found, _⟩ := filled.last name definition last
      obtain ⟨member, same⟩ := Definition.last?_eq_some last
      rw [found]
      simpa using ⟨definition, member, same⟩

theorem Filled.last_of_mem (filled : Filled definitions done catalog entries procedures)
    (member : name ∈ sortedNames entries) :
    ∃ definition, Definition.last? name done = some definition := by
  obtain ⟨definition, defined, named⟩ := (filled.mem_names name).mp member
  cases last : Definition.last? name done with
  | none => exact absurd named ((Definition.last?_eq_none_iff name done).mp last _ defined)
  | some found => exact ⟨found, rfl⟩

/-- The procedure under a name is that of the last definition. -/
theorem Filled.procedure (filled : Filled definitions done catalog entries procedures)
    (last : Definition.last? name done = some definition) :
    procedures.lookup name =
      some (.exported .temporary definition.texts.profile definition.arguments) := by
  obtain ⟨id, found, held⟩ := filled.last name definition last
  obtain ⟨profile, arguments, there, _, _, current⟩ := filled.inStep.current name id found
  rw [held, Option.some.injEq] at there
  obtain ⟨rfl, rfl⟩ := Script.ofArguments_inj there
  rw [current, filled.temporary]

end Catalog

end ScriptCatalog
