import ScriptCatalog.Proofs.Catalog.Sync

/-! The catalogs that a table can be brought to, and what is true of all of them. -/

namespace ScriptCatalog

namespace Catalog

variable [Platform]

/-- What can happen to a catalog whose registry nobody else writes: scripts with all their arguments
are added under names of some kind, scripts are removed, values are changed, scripts are made, and
anything is done to scripts in use that are not in the table. -/
inductive Step (named : String → Prop) (catalog : Catalog) : Catalog → Prop where
  | add (id : ScriptId) (profile : Profile) (arguments : List Argument) (name : String)
      (there : catalog.scripts[id]? = some (.ofArguments profile arguments))
      (texts : profile.AllTexts) (said : profile.name = .text name) (allowed : named name) :
      Step named catalog (Act.after (Catalog.add id) catalog)
  | remove (name : Datum) : Step named catalog (Act.after (Catalog.remove name) catalog)
  | clear : Step named catalog (Act.after Catalog.clear catalog)
  | change (id : ScriptId) (change : ValueChange) :
      Step named catalog (Act.after (onScript id change.act) catalog)
  | create (script : Script) :
      Step named catalog { catalog with scripts := catalog.scripts ++ [script] }
  | outside (id : ScriptId) (before : LiveScript) (script : Script)
      (live : catalog.scripts[id]? = some (.live before))
      (free : ∀ entry ∈ catalog.table.entries, entry.2 ≠ id) :
      Step named catalog { catalog with scripts := catalog.scripts.set id script }

inductive Reaches (named : String → Prop) (start : Catalog) : Catalog → Prop where
  | refl : Reaches named start start
  | step {catalog next : Catalog} (reached : Reaches named start catalog)
      (step : Step named catalog next) : Reaches named start next

def start (kind : ProcedureKind) (scripts : List Script) : Catalog :=
  { scripts, table := { kind, entries := [] }, registry := some .empty, journal := [] }

/-- A later catalog that is in step, where no script is in use that left the table. -/
def Progress (named : String → Prop) (followed : Prop) (catalog : Catalog)
    (entries : List (String × ScriptId)) (next : Catalog) : Prop :=
  ∃ entriesNext procedures, InStep named followed next entriesNext procedures ∧
    ∀ id, Settled catalog entries id → Settled next entriesNext id

variable {named : String → Prop} {followed : Prop} {catalog : Catalog}
  {entries : List (String × ScriptId)} {procedures : List (String × Procedure)}

theorem Progress.same (inStep : InStep named followed catalog entries procedures) :
    Progress named followed catalog entries catalog := ⟨entries, procedures, inStep, fun _ => id⟩

theorem destroyed_set {scripts : List Script} (id : ScriptId) {other : ScriptId}
    (was : scripts[other]? = some .destroyed) :
    (scripts.set id .destroyed)[other]? = some .destroyed := by
  by_cases same : id = other
  · subst same
    rw [List.getElem?_set_self (List.getElem?_eq_some_iff.mp was).1]
  · rw [List.getElem?_set_ne same]
    exact was

theorem destroyed_of_set {scripts : List Script} {id : ScriptId} {script : Script}
    (there : scripts[id]? = some script) : (scripts.set id .destroyed)[id]? = some .destroyed :=
  List.getElem?_set_self (List.getElem?_eq_some_iff.mp there).1

/-! Adding and removing. -/

theorem add_inStep (inStep : InStep named followed catalog entries procedures) {id : ScriptId}
    {profile : Profile} {arguments : List Argument} {name : String}
    (there : catalog.scripts[id]? = some (.ofArguments profile arguments))
    (texts : profile.AllTexts) (said : profile.name = .text name) (allowed : named name) :
    ∃ next proceduresNext, add id catalog = .ok () next ∧
      InStep named followed next (putField name id entries) proceduresNext ∧
      (∀ other, Settled catalog entries other → Settled next (putField name id entries) other) ∧
      next.table.kind = catalog.table.kind ∧
      ∀ other, entries.lookup name ≠ some other ∨ other = id →
        next.scripts[other]? = catalog.scripts[other]? := by
  by_cases free : entries.lookup name = none ∨ entries.lookup name = some id
  · obtain ⟨journal, events, ran⟩ :=
      add_eq catalog there texts said inStep.tabled inStep.installed free
    refine ⟨_, _, ran, inStep.added there texts said allowed events, ?_, rfl, fun _ _ => rfl⟩
    rintro other (⟨asked, found⟩ | destroyed)
    · refine .inl ⟨asked, ?_⟩
      rw [lookup_putField]
      by_cases same : asked = name
      · subst same
        rw [found] at free
        simpa [eq_comm] using free
      · simpa [same] using found
    · exact .inr destroyed
  · obtain ⟨previous, found, different⟩ :
        ∃ previous, entries.lookup name = some previous ∧ previous ≠ id := by
      cases looked : entries.lookup name with
      | none => exact absurd (.inl looked) free
      | some previous =>
          exact ⟨previous, rfl, fun same => free (.inr (by rw [looked, same]))⟩
    obtain ⟨_, _, before, _, saidBefore, _⟩ := inStep.current name previous found
    obtain ⟨journal, events, ran⟩ := add_replacing_eq catalog there texts said inStep.tabled
      inStep.installed found different before saidBefore (inStep.known found)
    refine ⟨_, _, ran, inStep.replaced there texts said allowed found different events, ?_, rfl, ?_⟩
    · rintro other (⟨asked, held⟩ | destroyed)
      · by_cases same : asked = name
        · subst same
          rw [found] at held
          cases held
          exact .inr (destroyed_of_set before)
        · refine .inl ⟨asked, ?_⟩
          rw [lookup_putField]
          simpa [same] using held
      · exact .inr (destroyed_set previous destroyed)
    · intro other unreplaced
      have apart : previous ≠ other := by
        rintro rfl
        rcases unreplaced with other | same
        · exact other found
        · exact different same
      exact List.getElem?_set_ne apart

theorem remove_inStep (inStep : InStep named followed catalog entries procedures) {name : String}
    {id : ScriptId} (found : entries.lookup name = some id) :
    ∃ next proceduresNext, remove (.text name) catalog = .ok () next ∧
      InStep named followed next (eraseField name entries) proceduresNext ∧
      ∀ other, Settled catalog entries other → Settled next (eraseField name entries) other := by
  obtain ⟨profile, arguments, there, _, said, _⟩ := inStep.current name id found
  obtain ⟨journal, events, ran⟩ := remove_eq catalog there said inStep.tabled inStep.installed
    found (inStep.known found)
  refine ⟨_, _, ran, inStep.removed found events, ?_⟩
  rintro other (⟨asked, held⟩ | destroyed)
  · by_cases same : asked = name
    · subst same
      rw [found] at held
      cases held
      exact .inr (destroyed_of_set there)
    · refine .inl ⟨asked, ?_⟩
      rw [lookup_eraseField asked inStep.distinct]
      simpa [same] using held
  · exact .inr (destroyed_set id destroyed)

theorem progress_add (inStep : InStep named followed catalog entries procedures) {id : ScriptId}
    {profile : Profile} {arguments : List Argument} {name : String}
    (there : catalog.scripts[id]? = some (.ofArguments profile arguments))
    (texts : profile.AllTexts) (said : profile.name = .text name) (allowed : named name) :
    Progress named followed catalog entries (Act.after (add id) catalog) := by
  obtain ⟨next, proceduresNext, ran, inStepNext, kept, _⟩ :=
    add_inStep inStep there texts said allowed
  rw [Act.after_of_ok ran]
  exact ⟨_, proceduresNext, inStepNext, kept⟩

theorem progress_remove (inStep : InStep named followed catalog entries procedures) (name : Datum) :
    Progress named followed catalog entries (Act.after (remove name) catalog) := by
  cases found : catalog.table.entries.lookup name with
  | none =>
      rw [after_remove_unknown catalog name found]
      exact .same inStep
  | some id =>
      rw [inStep.tabled] at found
      obtain ⟨words, rfl⟩ := eq_text_of_lookup_underTexts found
      rw [lookup_underTexts] at found
      obtain ⟨next, proceduresNext, ran, inStepNext, kept⟩ := remove_inStep inStep found
      rw [Act.after_of_ok ran]
      exact ⟨_, proceduresNext, inStepNext, kept⟩

theorem Progress.trans {middle next : Catalog} {entriesMiddle : List (String × ScriptId)}
    (kept : ∀ id, Settled catalog entries id → Settled middle entriesMiddle id)
    (progress : Progress named followed middle entriesMiddle next) :
    Progress named followed catalog entries next := by
  obtain ⟨entriesNext, procedures, inStep, keptNext⟩ := progress
  exact ⟨entriesNext, procedures, inStep, fun id settled => keptNext id (kept id settled)⟩

theorem progress_removeAll (inStep : InStep named followed catalog entries procedures)
    (names : List Datum) :
    Progress named followed catalog entries (Act.after (removeAll names) catalog) := by
  induction names generalizing catalog entries procedures with
  | nil => exact .same inStep
  | cons name names ih =>
      obtain ⟨entriesMiddle, proceduresMiddle, inStepMiddle, kept⟩ := progress_remove inStep name
      cases ran : remove name catalog with
      | ok value middle =>
          rw [Act.after_of_ok ran] at inStepMiddle kept
          have rest : Act.after (removeAll (name :: names)) catalog =
              Act.after (removeAll names) middle := by
            rw [Act.after, removeAll, Act.bind_of_ok _ ran]
            rfl
          rw [rest]
          exact (ih inStepMiddle).trans kept
      | error fault middle =>
          -- What was removed before the failure stays removed.
          rw [Act.after_of_error ran] at inStepMiddle kept
          have stopped : Act.after (removeAll (name :: names)) catalog = middle := by
            rw [Act.after, removeAll, Act.bind_of_error _ ran]
            rfl
          rw [stopped]
          exact ⟨entriesMiddle, proceduresMiddle, inStepMiddle, kept⟩

theorem progress_clear (inStep : InStep named followed catalog entries procedures) :
    Progress named followed catalog entries (Act.after clear catalog) := by
  have run : Act.after clear catalog =
      Act.after (Act.ofExcept catalog.table.names >>= removeAll) catalog := rfl
  rw [run]
  cases catalog.table.names with
  | ok names => exact progress_removeAll inStep names
  | error fault => exact .same inStep

/-! Steps that write to scripts alone. -/

theorem progress_scripts (inStep : InStep named followed catalog entries procedures)
    (scripts : List Script)
    (kept : ∀ name id profile arguments, entries.lookup name = some id →
      catalog.scripts[id]? = some (.ofArguments profile arguments) →
        ∃ changed, scripts[id]? = some (.ofArguments profile changed) ∧
          changed.map Argument.outline = arguments.map Argument.outline)
    (keptOut : ∀ id : ScriptId, catalog.scripts[id]? = some .destroyed →
      scripts[id]? = some .destroyed) :
    Progress named followed catalog entries { catalog with scripts } := by
  refine ⟨entries, procedures, inStep.of_scripts scripts kept, ?_⟩
  rintro id (tabled | destroyed)
  · exact .inl tabled
  · exact .inr (keptOut id destroyed)

theorem after_onScript {α : Type} {id : ScriptId} {act : ScriptAct α} {script : Script}
    (there : catalog.scripts[id]? = some script) :
    Act.after (onScript id act) catalog =
      { catalog with scripts := catalog.scripts.set id (Act.after act script) } := by
  simp only [Act.after, onScript, there]
  cases act script with
  | ok value changed => rfl
  | error fault changed => rfl

theorem progress_change (inStep : InStep named followed catalog entries procedures) (id : ScriptId)
    (change : ValueChange) :
    Progress named followed catalog entries (Act.after (onScript id change.act) catalog) := by
  cases there : catalog.scripts[id]? with
  | none =>
      rw [Act.after_of_error (onScript_absent change.act there)]
      exact .same inStep
  | some script =>
      have same : (Act.after change.act script).outline = script.outline :=
        change.keepsOutline script
      have inside := (List.getElem?_eq_some_iff.mp there).1
      rw [after_onScript there]
      refine progress_scripts inStep _ ?_ ?_
      · intro name other profile arguments _ held
        by_cases changedHere : id = other
        · subst changedHere
          rw [there, Option.some.injEq] at held
          rw [held] at same ⊢
          obtain ⟨changed, whole, others⟩ := Script.ofArguments_of_outline same
          exact ⟨changed, by rw [List.getElem?_set_self inside, whole], others⟩
        · rw [List.getElem?_set_ne changedHere]
          exact ⟨arguments, held, rfl⟩
      · intro other destroyed
        by_cases changedHere : id = other
        · subst changedHere
          rw [there, Option.some.injEq] at destroyed
          rw [destroyed] at same ⊢
          rw [List.getElem?_set_self inside, Script.eq_destroyed_of_outline same]
        · rw [List.getElem?_set_ne changedHere]
          exact destroyed

theorem progress_create (inStep : InStep named followed catalog entries procedures)
    (script : Script) :
    Progress named followed catalog entries
      { catalog with scripts := catalog.scripts ++ [script] } := by
  have still {id : ScriptId} {held : Script} (there : catalog.scripts[id]? = some held) :
      (catalog.scripts ++ [script])[id]? = some held := by
    rw [List.getElem?_append_left (List.getElem?_eq_some_iff.mp there).1]
    exact there
  refine progress_scripts inStep _ ?_ fun _ => still
  exact fun _ _ _ arguments _ there => ⟨arguments, still there, rfl⟩

theorem progress_outside (inStep : InStep named followed catalog entries procedures) (id : ScriptId)
    (before : LiveScript) (script : Script) (live : catalog.scripts[id]? = some (.live before))
    (free : ∀ entry ∈ catalog.table.entries, entry.2 ≠ id) :
    Progress named followed catalog entries
      { catalog with scripts := catalog.scripts.set id script } := by
  refine progress_scripts inStep _ ?_ ?_
  · intro name other profile arguments found there
    have apart : id ≠ other := by
      rintro rfl
      rw [inStep.tabled] at free
      exact free _ (mem_underTexts_of_lookup found) rfl
    rw [List.getElem?_set_ne apart]
    exact ⟨arguments, there, rfl⟩
  · intro other destroyed
    have apart : id ≠ other := by
      rintro rfl
      rw [live] at destroyed
      cases destroyed
    rw [List.getElem?_set_ne apart]
    exact destroyed

/-! Runs. -/

theorem progress_step {next : Catalog} (inStep : InStep named followed catalog entries procedures)
    (step : Step named catalog next) : Progress named followed catalog entries next := by
  cases step with
  | add id profile arguments name there texts said allowed =>
      exact progress_add inStep there texts said allowed
  | remove name => exact progress_remove inStep name
  | clear => exact progress_clear inStep
  | change id change => exact progress_change inStep id change
  | create script => exact progress_create inStep script
  | outside id before script live free => exact progress_outside inStep id before script live free

theorem progress_run {next : Catalog} (inStep : InStep named followed catalog entries procedures)
    (reached : Reaches named catalog next) : Progress named followed catalog entries next := by
  induction reached with
  | refl => exact .same inStep
  | step _ step ih =>
      obtain ⟨entriesMiddle, proceduresMiddle, inStepMiddle, kept⟩ := ih
      exact (progress_step inStepMiddle step).trans kept

theorem inStep_start (kind : ProcedureKind) (scripts : List Script) :
    InStep named followed (start kind scripts) [] [] where
  tabled := rfl
  installed := rfl
  distinct := List.nodup_nil
  sameNames := .nil
  allowed := fun _ member => absurd member List.not_mem_nil
  current := fun _ _ found => by cases found
  mirrored := fun _ _ => ⟨rfl, rfl⟩

/-! What holds of every catalog that is reached. -/

/-- A table whose entries are scripts in use, each under its own name, and a registry that has their
procedures as they would be built now, and no others. -/
structure Agrees (catalog : Catalog) (registry : Registry) : Prop where
  live : ∀ entry ∈ catalog.table.entries, ∃ profile arguments,
    catalog.scripts[entry.2]? = some (.ofArguments profile arguments) ∧ profile.name = entry.1
  distinct : (catalog.table.entries.map (·.1)).Nodup
  sameNames : registry.names.Perm (catalog.table.entries.map (·.1))
  current : ∀ entry ∈ catalog.table.entries, ∃ script procedure,
    catalog.table.find? entry.1 = .ok (some entry.2) ∧
      catalog.scripts[entry.2]? = some script ∧
      Script.procedure catalog.table.kind script = .ok procedure script ∧
      registry.find? entry.1 = .ok (some procedure)

/-- A catalog where every script with all its arguments can be added under its name, and every
script in the table removed. -/
structure Serves (catalog : Catalog) : Prop where
  adds : ∀ id profile arguments, catalog.scripts[id]? = some (.ofArguments profile arguments) →
    profile.AllTexts → ∃ next, add id catalog = .ok () next ∧
      next.table.entries.lookup profile.name = some id
  removes : ∀ entry ∈ catalog.table.entries, ∃ next, remove entry.1 catalog = .ok () next ∧
    next.table.entries.lookup entry.1 = none

theorem InStep.entry (inStep : InStep named followed catalog entries procedures)
    {entry : Datum × ScriptId} (member : entry ∈ catalog.table.entries) :
    ∃ name, entry.1 = .text name ∧ entries.lookup name = some entry.2 := by
  rw [inStep.tabled] at member
  obtain ⟨⟨name, id⟩, there, rfl⟩ := List.mem_map.mp member
  exact ⟨name, rfl, lookup_of_mem inStep.distinct there⟩

theorem InStep.serves (inStep : InStep named followed catalog entries procedures) :
    Serves catalog := by
  constructor
  · intro id profile arguments there texts
    obtain ⟨name, said⟩ := texts.name
    obtain ⟨next, _, ran, inStepNext, _⟩ :=
      add_inStep (inStep.mono fun _ _ => trivial) there texts said trivial
    refine ⟨next, ran, ?_⟩
    rw [inStepNext.tabled, said, lookup_underTexts, lookup_putField, beq_self_eq_true]
    rfl
  · intro entry member
    obtain ⟨name, under, found⟩ := inStep.entry member
    obtain ⟨next, _, ran, inStepNext, _⟩ := remove_inStep inStep found
    rw [under]
    refine ⟨next, ran, ?_⟩
    rw [inStepNext.tabled, lookup_underTexts, lookup_eraseField name inStep.distinct,
      beq_self_eq_true]
    rfl

theorem InStep.agrees (inStep : InStep named followed catalog entries procedures) :
    Agrees catalog (.ofTexts procedures) := by
  have names : catalog.table.entries.map (·.1) = (keysOf entries).map .text := by
    rw [inStep.tabled, keysOf_underTexts]
  refine ⟨?_, ?_, ?_, ?_⟩
  · intro entry member
    obtain ⟨name, under, found⟩ := inStep.entry member
    obtain ⟨profile, arguments, there, _, said, _⟩ := inStep.current name entry.2 found
    exact ⟨profile, arguments, there, said.trans under.symm⟩
  · rw [names]
    exact inStep.distinct.map fun _ _ same => Datum.text.inj same
  · rw [names, Registry.names, Registry.ofTexts, keysOf_underTexts]
    exact inStep.sameNames.map _
  · intro entry member
    obtain ⟨name, under, found⟩ := inStep.entry member
    obtain ⟨profile, arguments, there, texts, _, held⟩ := inStep.current name entry.2 found
    rw [under]
    refine ⟨_, _, ?_, there, Script.procedure_ofArguments _ _ _ texts, ?_⟩
    · rw [find_underTexts catalog inStep.tabled, found]
    · simp only [Registry.find?, Registry.ofTexts, lookup_underTexts, held]
      rfl

/-- Where names are heard as they are, mirrors kept by what is signalled have the names of the
registry in order, and those of the table. -/
theorem InStep.mirrors (inStep : InStep named followed catalog entries procedures)
    (follows : followed) (unchanged : ∀ name, named name → passedText name = name) :
    Registry.names (.ofTexts procedures) =
        (installedMirror catalog.journal.events).map .text ∧
      ∀ name, name ∈ catalog.table.entries.map (·.1) ↔
        ∃ words ∈ tabledMirror catalog.journal.events, name = .text words := by
  obtain ⟨installed, tabled⟩ := inStep.mirrored follows unchanged
  rw [installed, tabled, Registry.names, Registry.ofTexts, keysOf_underTexts, inStep.tabled,
    keysOf_underTexts]
  refine ⟨rfl, fun name => ?_⟩
  simp only [List.mem_map, List.mem_toFinset, eq_comm]

/-- A table and its registry stay in step. In every catalog that is reached the table has scripts
in use under their own names, the registry has exactly their procedures, scripts can be added and
removed, one that left the table is destroyed, and mirrors kept by what is signalled are right if
names are heard as they are. -/
theorem table_and_registry_in_step {kind : ProcedureKind} {scripts : List Script}
    (reached : Reaches named (start kind scripts) catalog) :
    ∃ registry, catalog.registry = some registry ∧ Agrees catalog registry ∧ Serves catalog ∧
      (∀ earlier, Reaches named (start kind scripts) earlier → Reaches named earlier catalog →
        ∀ entry ∈ earlier.table.entries, entry.2 ∈ catalog.table.entries.map (·.2) ∨
          catalog.scripts[entry.2]? = some .destroyed) ∧
      ((∀ name, named name → passedText name = name) →
        registry.names = (installedMirror catalog.journal.events).map .text ∧
          ∀ name, name ∈ catalog.table.entries.map (·.1) ↔
            ∃ words ∈ tabledMirror catalog.journal.events, name = .text words) := by
  have started : InStep named True (start kind scripts) [] [] := inStep_start kind scripts
  obtain ⟨entries, procedures, inStep, _⟩ := progress_run started reached
  refine ⟨.ofTexts procedures, inStep.installed, inStep.agrees, inStep.serves, ?_,
    inStep.mirrors trivial⟩
  intro earlier before after entry member
  -- The earlier catalog is in step too, and from there on no script is in use that is not tabled.
  obtain ⟨entriesEarlier, proceduresEarlier, inStepEarlier, _⟩ := progress_run started before
  obtain ⟨entriesNow, _, inStepNow, kept⟩ := progress_run inStepEarlier after
  obtain ⟨name, _, held⟩ := inStepEarlier.entry member
  have settled : Settled earlier entriesEarlier entry.2 := .inl ⟨name, held⟩
  rcases kept entry.2 settled with ⟨nameNow, found⟩ | destroyed
  · refine .inl ?_
    rw [inStepNow.tabled]
    exact List.mem_map_of_mem (f := (·.2)) (mem_underTexts_of_lookup found)
  · exact .inr destroyed

end Catalog

namespace Catalog

/-- Two scripts of one name, next to an empty table. -/
def pair : Catalog := start .plugin [.ofArguments (.plain "s") [], .ofArguments (.plain "s") []]

/-- Both of them added, so that the second takes the name from the first. -/
def redefined : Catalog := Act.after (add 1) (Act.after (add 0) pair)

theorem table_and_registry_in_step_redefined :
    ∃ registry, redefined.registry = some registry ∧ Agrees redefined registry ∧
      Serves redefined ∧ redefined.scripts[0]? = some .destroyed ∧
      registry.names = (installedMirror redefined.journal.events).map .text := by
  have first : Reaches (· = "s") pair (Act.after (add 0) pair) :=
    .step .refl (.add 0 _ _ "s" rfl (Profile.allTexts_plain "s") rfl rfl)
  have second : Step (· = "s") (Act.after (add 0) pair) redefined :=
    .add 1 _ _ "s" rfl (Profile.allTexts_plain "s") rfl rfl
  obtain ⟨registry, installed, agrees, serves, left, mirrors⟩ :=
    table_and_registry_in_step (first.step second)
  refine ⟨registry, installed, agrees, serves, ?_, (mirrors ?_).1⟩
  · have held : (.text "s", 0) ∈ (Act.after (add 0) pair).table.entries := .head _
    rcases left _ first (.step .refl second) _ held with kept | destroyed
    · exact absurd kept (by decide)
    · exact destroyed
  · rintro name rfl
    exact textOfPassedUnits_of_unmarked "s" (by decide) (by decide)

def marked : Catalog := start .plugin [.ofArguments (.plain "\ufeffname") []]

/-- A mirror does not have the mark that a name begins with. -/
theorem mirror_loses_mark :
    Reaches (fun _ => True) marked (Act.after (add 0) marked) ∧
      ∃ registry, (Act.after (add 0) marked).registry = some registry ∧
        registry.names = [.text "\ufeffname"] ∧
        installedMirror (Act.after (add 0) marked).journal.events = ["name"] := by
  have texts := Profile.allTexts_plain "\ufeffname"
  refine ⟨.step .refl (.add 0 _ _ "\ufeffname" rfl texts rfl trivial), _, rfl, rfl, ?_⟩
  decide

end Catalog

end ScriptCatalog
