import Mathlib.Data.Finset.Basic
import ScriptCatalog.Proofs.Catalog.Operations

/-! A table and a registry that are in step stay so, whatever is done to the table and to the values
of its scripts: each operation has one lemma, with the entries and the procedures after it. -/

namespace ScriptCatalog

theorem textOfPassedUnits_of_unmarked (name : String) (noMark : name.toList.head? ≠ some '\ufeff')
    (noExchangedMark : name.toList.head? ≠ some '\ufffe') : textOfPassedUnits name = name := by
  rw [textOfPassedUnits]
  cases characters : name.toList with
  | nil =>
      rw [String.toList_eq_nil_iff.mp characters]
      rfl
  | cons first rest =>
      rw [characters, List.head?_cons, ne_eq, Option.some.injEq] at noMark noExchangedMark
      rw [charsOfUnits_passedUnits first rest noMark noExchangedMark, ← characters,
        String.ofList_toList]

variable [Platform]

/-! Mirrors of a registry and a table, kept by nothing but what is signalled. -/

def hearInstalled (names : List String) : Event → List String
  | .installed name => if name ∈ names then names else names ++ [name]
  | .uninstalled name => names.erase name
  | _ => names

def hearTabled (names : Finset String) : Event → Finset String
  | .added name => insert name names
  | .removed name => names.erase name
  | _ => names

/-- The installed procedures, in the order of their installation. -/
def installedMirror (events : List Event) : List String := events.foldl hearInstalled []

/-- The scripts in the table. -/
def tabledMirror (events : List Event) : Finset String := events.foldl hearTabled ∅

theorem installedMirror_append (before after : List Event) :
    installedMirror (before ++ after) = after.foldl hearInstalled (installedMirror before) :=
  List.foldl_append

theorem tabledMirror_append (before after : List Event) :
    tabledMirror (before ++ after) = after.foldl hearTabled (tabledMirror before) :=
  List.foldl_append

namespace Catalog

/-- A table and a registry in step, and their mirrors with them if they are followed from the start
and names are heard as they are. -/
structure InStep (named : String → Prop) (followed : Prop) (catalog : Catalog)
    (entries : List (String × ScriptId)) (procedures : List (String × Procedure)) : Prop where
  tabled : catalog.table.entries = underTexts entries
  installed : catalog.registry = some (.ofTexts procedures)
  distinct : (keysOf entries).Nodup
  sameNames : (keysOf procedures).Perm (keysOf entries)
  allowed : ∀ name ∈ keysOf entries, named name
  current : ∀ name id, entries.lookup name = some id → ∃ profile arguments,
    catalog.scripts[id]? = some (.ofArguments profile arguments) ∧ profile.AllTexts ∧
      profile.name = .text name ∧
      procedures.lookup name = some (.exported catalog.table.kind profile arguments)
  mirrored : followed → (∀ name, named name → passedText name = name) →
    installedMirror catalog.journal.events = keysOf procedures ∧
      tabledMirror catalog.journal.events = (keysOf entries).toFinset

/-- A script that is in the table, or was taken out of use. -/
def Settled (catalog : Catalog) (entries : List (String × ScriptId)) (id : ScriptId) : Prop :=
  (∃ name, entries.lookup name = some id) ∨ catalog.scripts[id]? = some .destroyed

variable {named : String → Prop} {followed : Prop} {catalog : Catalog}
  {entries : List (String × ScriptId)} {procedures : List (String × Procedure)}

theorem InStep.known (inStep : InStep named followed catalog entries procedures) {name : String}
    {id : ScriptId} (found : entries.lookup name = some id) : name ∈ keysOf procedures :=
  inStep.sameNames.mem_iff.mpr (mem_keysOf_of_lookup found)

/-- No script has two names. -/
theorem InStep.name_eq (inStep : InStep named followed catalog entries procedures)
    {name other : String} {id : ScriptId} (found : entries.lookup name = some id)
    (foundOther : entries.lookup other = some id) : name = other := by
  obtain ⟨profile, arguments, there, _, said, _⟩ := inStep.current name id found
  obtain ⟨_, _, thereOther, _, saidOther, _⟩ := inStep.current other id foundOther
  rw [there, Option.some.injEq] at thereOther
  obtain ⟨rfl, _⟩ := Script.ofArguments_inj thereOther
  rw [said] at saidOther
  exact Datum.text.inj saidOther

theorem InStep.mono {wider : String → Prop}
    (inStep : InStep named followed catalog entries procedures)
    (sub : ∀ name, named name → wider name) : InStep wider followed catalog entries procedures :=
  { inStep with
    allowed := fun name member => sub name (inStep.allowed name member)
    mirrored := fun follows heard =>
      inStep.mirrored follows fun name known => heard name (sub name known) }

theorem InStep.distinct_procedures (inStep : InStep named followed catalog entries procedures) :
    (keysOf procedures).Nodup := inStep.sameNames.nodup_iff.mpr inStep.distinct

theorem InStep.current_of_others (inStep : InStep named followed catalog entries procedures)
    {name other : String} {id otherId : ScriptId} (found : entries.lookup name = some id)
    (foundOther : entries.lookup other = some otherId) (different : other ≠ name) :
    ∃ profile arguments,
      (catalog.scripts.set id .destroyed)[otherId]? = some (.ofArguments profile arguments) ∧
        profile.AllTexts ∧ profile.name = .text other ∧
        (eraseField name procedures).lookup other =
          some (.exported catalog.table.kind profile arguments) := by
  obtain ⟨profile, arguments, there, texts, said, current⟩ :=
    inStep.current other otherId foundOther
  have apart : id ≠ otherId := by
    rintro rfl
    exact different (inStep.name_eq foundOther found)
  refine ⟨profile, arguments, ?_, texts, said, ?_⟩
  · rw [List.getElem?_set_ne apart]
    exact there
  · rw [lookup_eraseField other inStep.distinct_procedures, if_neg (by simpa using different)]
    exact current

/-! Changes of scripts alone. -/

theorem InStep.of_scripts (inStep : InStep named followed catalog entries procedures)
    (scripts : List Script)
    (kept : ∀ name id profile arguments, entries.lookup name = some id →
      catalog.scripts[id]? = some (.ofArguments profile arguments) →
        ∃ changed, scripts[id]? = some (.ofArguments profile changed) ∧
          changed.map Argument.outline = arguments.map Argument.outline) :
    InStep named followed { catalog with scripts } entries procedures := by
  refine ⟨inStep.tabled, inStep.installed, inStep.distinct, inStep.sameNames, inStep.allowed, ?_,
    inStep.mirrored⟩
  intro name id found
  obtain ⟨profile, arguments, there, texts, said, current⟩ := inStep.current name id found
  obtain ⟨changed, still, same⟩ := kept name id profile arguments found there
  refine ⟨profile, changed, still, texts, said, ?_⟩
  rw [current, Procedure.exported_congr _ _ same]

/-! Adding. -/

theorem installedMirror_installed {names : List (String × Procedure)} (name : String)
    (procedure : Procedure) :
    hearInstalled (keysOf names) (.installed name) = keysOf (putField name procedure names) := by
  rw [hearInstalled]
  split
  next there => exact (keysOf_putField_of_mem procedure there).symm
  next new => exact (keysOf_putField_of_not_mem procedure new).symm

theorem tabledMirror_added (name : String) (id : ScriptId) :
    insert name (keysOf entries).toFinset = (keysOf (putField name id entries)).toFinset := by
  ext asked
  rw [Finset.mem_insert, List.mem_toFinset, List.mem_toFinset, mem_keysOf_putField]

theorem tabledMirror_removed (name : String) (distinct : (keysOf entries).Nodup) :
    (keysOf entries).toFinset.erase name = (keysOf (eraseField name entries)).toFinset := by
  ext asked
  rw [Finset.mem_erase, List.mem_toFinset, List.mem_toFinset, keysOf_eraseField,
    distinct.mem_erase_iff]

variable {id : ScriptId} {profile : Profile} {arguments : List Argument} {name : String}

theorem InStep.added (inStep : InStep named followed catalog entries procedures)
    (there : catalog.scripts[id]? = some (.ofArguments profile arguments))
    (texts : profile.AllTexts) (said : profile.name = .text name) (allowed : named name)
    {journal : Journal} (events : journal.events =
      catalog.journal.events ++ [.installed (passedText name), .added (passedText name)]) :
    InStep named followed
      { withEntries (putField name id entries) catalog with
        registry := some (.ofTexts
          (putField name (.exported catalog.table.kind profile arguments) procedures))
        journal }
      (putField name id entries)
      (putField name (.exported catalog.table.kind profile arguments) procedures) := by
  refine ⟨rfl, rfl, nodup_keysOf_putField name id inStep.distinct,
    perm_keysOf_putField _ _ _ inStep.sameNames, ?_, ?_, ?_⟩
  · intro asked member
    rcases (mem_keysOf_putField _ _ _ _).mp member with rfl | member
    · exact allowed
    · exact inStep.allowed asked member
  · intro asked other found
    rw [lookup_putField] at found ⊢
    by_cases same : asked = name
    · subst same
      simp only [beq_self_eq_true, if_true, Option.some.injEq] at found ⊢
      subst found
      exact ⟨profile, arguments, there, texts, said, rfl⟩
    · simp only [beq_iff_eq, same, if_false] at found ⊢
      exact inStep.current asked other found
  · intro follows heard
    obtain ⟨installed, tabled⟩ := inStep.mirrored follows heard
    rw [heard name allowed] at events
    constructor
    · rw [events, installedMirror_append, installed]
      exact installedMirror_installed name _
    · rw [events, tabledMirror_append, tabled]
      exact tabledMirror_added name id

theorem InStep.replaced (inStep : InStep named followed catalog entries procedures)
    {previous : ScriptId} (there : catalog.scripts[id]? = some (.ofArguments profile arguments))
    (texts : profile.AllTexts) (said : profile.name = .text name) (allowed : named name)
    (found : entries.lookup name = some previous) (different : previous ≠ id)
    {journal : Journal} (events : journal.events = catalog.journal.events ++
      [.uninstalled (passedText name), .installed (passedText name), .added (passedText name)]) :
    InStep named followed
      { withEntries (putField name id entries) catalog with
        scripts := catalog.scripts.set previous .destroyed
        registry := some (.ofTexts (putField name
          (.exported catalog.table.kind profile arguments) (eraseField name procedures)))
        journal }
      (putField name id entries)
      (putField name (.exported catalog.table.kind profile arguments)
        (eraseField name procedures)) := by
  have knownEntry : name ∈ keysOf entries := mem_keysOf_of_lookup found
  refine ⟨rfl, rfl, nodup_keysOf_putField name id inStep.distinct, ?_, ?_, ?_, ?_⟩
  · -- The name keeps its place in the table, and moves to the end of the registry.
    rw [keysOf_putField_of_mem id knownEntry]
    exact (perm_keysOf_putField_eraseField _ inStep.distinct_procedures (inStep.known found)).trans
      inStep.sameNames
  · intro asked member
    rw [keysOf_putField_of_mem id knownEntry] at member
    exact inStep.allowed asked member
  · intro asked other held
    rw [lookup_putField] at held ⊢
    by_cases same : asked = name
    · subst same
      simp only [beq_self_eq_true, if_true, Option.some.injEq] at held ⊢
      subst held
      refine ⟨profile, arguments, ?_, texts, said, rfl⟩
      exact (List.getElem?_set_ne different).trans there
    · simp only [beq_iff_eq, same, if_false] at held ⊢
      exact inStep.current_of_others found held same
  · intro follows heard
    obtain ⟨installed, tabled⟩ := inStep.mirrored follows heard
    rw [heard name allowed] at events
    constructor
    · rw [events, installedMirror_append, installed]
      change hearInstalled ((keysOf procedures).erase name) (.installed name) = _
      rw [← keysOf_eraseField]
      exact installedMirror_installed name _
    · rw [events, tabledMirror_append, tabled]
      exact tabledMirror_added name id

/-! Removing. -/

theorem InStep.removed (inStep : InStep named followed catalog entries procedures)
    (found : entries.lookup name = some id) {journal : Journal} (events : journal.events =
      catalog.journal.events ++ [.uninstalled (passedText name), .removed (passedText name)]) :
    InStep named followed
      { withEntries (eraseField name entries) catalog with
        scripts := catalog.scripts.set id .destroyed
        registry := some (.ofTexts (eraseField name procedures))
        journal }
      (eraseField name entries) (eraseField name procedures) := by
  refine ⟨rfl, rfl, ?_, ?_, ?_, ?_, ?_⟩
  · rw [keysOf_eraseField]
    exact inStep.distinct.erase name
  · rw [keysOf_eraseField, keysOf_eraseField]
    exact inStep.sameNames.erase name
  · intro asked member
    rw [keysOf_eraseField] at member
    exact inStep.allowed asked (List.mem_of_mem_erase member)
  · intro asked other held
    rw [lookup_eraseField asked inStep.distinct] at held
    by_cases same : asked = name
    · simp [same] at held
    · simp only [beq_iff_eq, same, if_false] at held
      exact inStep.current_of_others found held same
  · intro follows heard
    obtain ⟨installed, tabled⟩ := inStep.mirrored follows heard
    rw [heard name (inStep.allowed name (mem_keysOf_of_lookup found))] at events
    constructor
    · rw [events, installedMirror_append, installed]
      exact (keysOf_eraseField name procedures).symm
    · rw [events, tabledMirror_append, tabled]
      exact tabledMirror_removed name inStep.distinct

end Catalog

end ScriptCatalog
