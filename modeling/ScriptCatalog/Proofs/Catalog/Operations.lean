import ScriptCatalog.Catalog
import ScriptCatalog.Proofs.Keyed
import ScriptCatalog.Proofs.Procedure.Exported

/-! What the operations on a table do, step by step, where the table and the registry keep their
entries under texts. -/

namespace ScriptCatalog

variable [Platform]

namespace Journal

theorem events_emit (journal : Journal) (event : Event) :
    (journal.emit event).events = journal.events ++ [event] := by
  rw [emit, events_append]
  rfl

theorem events_log (journal : Journal) (level : Level) (channel : Channel) (text : String) :
    (journal.log level channel text).events = journal.events := by
  rw [log, events_append]
  simp [events]

theorem events_log_emit (journal : Journal) (level : Level) (channel : Channel) (text : String)
    (event : Event) :
    ((journal.log level channel text).emit event).events = journal.events ++ [event] := by
  rw [events_emit, events_log]

end Journal

/-- A registry that keeps procedures under texts. -/
def Registry.ofTexts (procedures : List (String × Procedure)) : Registry :=
  { procedures := underTexts procedures }

namespace RegistryDesk

variable (procedures : List (String × Procedure)) (journal : Journal)

theorem contains_underTexts (name : String) :
    Registry.contains (.ofTexts procedures) (.text name) =
      .ok (procedures.lookup name).isSome := by
  simp only [Registry.contains, Registry.find?, Registry.ofTexts, lookup_underTexts]
  rfl

theorem install_ok (procedure : Procedure) (name : String) (named : procedure.name = .text name) :
    ∃ after : Journal, after.events = journal.events ++ [.installed (passedText name)] ∧
      install procedure { registry := .ofTexts procedures, journal } =
        .ok () { registry := .ofTexts (putField name procedure procedures), journal := after } := by
  have put : Registry.put procedure (.ofTexts procedures) =
      .ofTexts (putField name procedure procedures) := by
    rw [Registry.put, named, Registry.ofTexts, putField_underTexts]
    rfl
  have ran : ∃ text, install procedure { registry := .ofTexts procedures, journal } =
      .ok () { registry := .ofTexts (putField name procedure procedures)
               journal := (journal.log .info .procedures text).emit
                 (.installed (passedText name)) } := by
    unfold install
    rw [named, Act.get_bind]
    simp only [contains_underTexts]
    rw [← put]
    exact ⟨_, rfl⟩
  obtain ⟨text, ran⟩ := ran
  exact ⟨_, Journal.events_log_emit journal .info .procedures text _, ran⟩

theorem uninstall_ok (name : String) (there : name ∈ keysOf procedures) :
    ∃ after : Journal, after.events = journal.events ++ [.uninstalled (passedText name)] ∧
      uninstall (.text name) { registry := .ofTexts procedures, journal } =
        .ok () { registry := .ofTexts (eraseField name procedures), journal := after } := by
  have erase : Registry.erase (.text name) (.ofTexts procedures) =
      .ofTexts (eraseField name procedures) := by
    rw [Registry.erase, Registry.ofTexts, eraseField_underTexts]
    rfl
  have ran : ∃ text, uninstall (.text name) { registry := .ofTexts procedures, journal } =
      .ok () { registry := .ofTexts (eraseField name procedures)
               journal := (journal.log .info .procedures text).emit
                 (.uninstalled (passedText name)) } := by
    unfold uninstall
    rw [Act.get_bind]
    simp only [contains_underTexts, (lookup_isSome_iff_mem_keysOf name procedures).mpr there]
    rw [← erase]
    exact ⟨_, rfl⟩
  obtain ⟨text, ran⟩ := ran
  exact ⟨_, Journal.events_log_emit journal .info .procedures text _, ran⟩

end RegistryDesk

namespace Catalog

theorem onScript_absent {α : Type} {id : ScriptId} (act : ScriptAct α) {catalog : Catalog}
    (absent : catalog.scripts[id]? = none) :
    onScript id act catalog = .error .absentObject catalog := by
  simp only [onScript, absent]

theorem onScript_of_error {α : Type} {id : ScriptId} {act : ScriptAct α} {catalog : Catalog}
    {script after : Script} {fault : Fault} (there : catalog.scripts[id]? = some script)
    (failed : act script = .error fault after) :
    onScript id act catalog =
      .error fault { catalog with scripts := catalog.scripts.set id after } := by
  simp only [onScript, there, failed]

/-- What fails with a script left as it is leaves everything as it is. -/
theorem onScript_of_failing {α : Type} {id : ScriptId} {act : ScriptAct α} {catalog : Catalog}
    {script : Script} {fault : Fault} (there : catalog.scripts[id]? = some script)
    (failed : act script = .error fault script) :
    onScript id act catalog = .error fault catalog := by
  rw [onScript_of_error there failed, set_of_getElem? there]

theorem onScript_of_ok {α : Type} {id : ScriptId} {act : ScriptAct α} {catalog : Catalog}
    {script after : Script} {value : α} (there : catalog.scripts[id]? = some script)
    (ran : act script = .ok value after) :
    onScript id act catalog =
      .ok value { catalog with scripts := catalog.scripts.set id after } := by
  simp only [onScript, there, ran]

theorem onScript_of_reading {α : Type} {id : ScriptId} {act : ScriptAct α} {catalog : Catalog}
    {script : Script} {value : α} (there : catalog.scripts[id]? = some script)
    (ran : act script = .ok value script) : onScript id act catalog = .ok value catalog := by
  rw [onScript_of_ok there ran, set_of_getElem? there]

theorem onRegistry_of_ok {α : Type} {act : Act RegistryDesk α} {catalog : Catalog}
    {registry : Registry} {value : α} {desk : RegistryDesk}
    (installed : catalog.registry = some registry)
    (ran : act { registry, journal := catalog.journal } = .ok value desk) :
    onRegistry act catalog =
      .ok value { catalog with registry := some desk.registry, journal := desk.journal } := by
  simp only [onRegistry, installed, ran]

variable (catalog : Catalog) {id : ScriptId} {profile : Profile} {arguments : List Argument}
  {name : String} {procedures : List (String × Procedure)}

theorem expectRegistry_ok {registry : Registry} (installed : catalog.registry = some registry) :
    expectRegistry catalog = .ok () catalog := by
  refine (Act.get_bind _ _).trans ?_
  simp only [installed]
  rfl

theorem name_ok (there : catalog.scripts[id]? = some (.ofArguments profile arguments))
    (named : profile.name = .text name) :
    onScript id Script.name catalog = .ok (.text name) catalog :=
  onScript_of_reading there (Script.told_text (·.name) named)

theorem install_eq (kind : ProcedureKind)
    (there : catalog.scripts[id]? = some (.ofArguments profile arguments))
    (texts : profile.AllTexts) (named : profile.name = .text name)
    (installed : catalog.registry = some (.ofTexts procedures)) :
    ∃ journal, journal.events = catalog.journal.events ++ [.installed (passedText name)] ∧
      install id kind catalog = .ok (.exported kind profile arguments)
        { catalog with
          registry := some (.ofTexts (putField name (.exported kind profile arguments) procedures))
          journal } := by
  obtain ⟨journal, events, ran⟩ := RegistryDesk.install_ok procedures catalog.journal
    (.exported kind profile arguments) name named
  refine ⟨journal, events, ?_⟩
  have built :=
    onScript_of_reading there (Script.procedure_ofArguments kind profile arguments texts)
  refine (Act.bind_of_ok _ (expectRegistry_ok catalog installed)).trans ?_
  refine (Act.bind_of_ok _ built).trans ?_
  exact Act.bind_of_ok _ (onRegistry_of_ok installed ran)

theorem uninstall_eq (there : catalog.scripts[id]? = some (.ofArguments profile arguments))
    (named : profile.name = .text name)
    (installed : catalog.registry = some (.ofTexts procedures))
    (known : name ∈ keysOf procedures) :
    ∃ journal, journal.events = catalog.journal.events ++ [.uninstalled (passedText name)] ∧
      uninstall id catalog = .ok ()
        { catalog with
          registry := some (.ofTexts (eraseField name procedures))
          journal } := by
  obtain ⟨journal, events, ran⟩ :=
    RegistryDesk.uninstall_ok procedures catalog.journal name known
  refine ⟨journal, events, ?_⟩
  refine (Act.bind_of_ok _ (expectRegistry_ok catalog installed)).trans ?_
  refine (Act.bind_of_ok _ (name_ok catalog there named)).trans ?_
  exact onRegistry_of_ok installed ran

theorem destroy_eq (there : catalog.scripts[id]? = some (.ofArguments profile arguments)) :
    onScript id Script.destroy catalog =
      .ok () { catalog with scripts := catalog.scripts.set id .destroyed } :=
  onScript_of_ok there rfl

theorem retire_eq (there : catalog.scripts[id]? = some (.ofArguments profile arguments))
    (named : profile.name = .text name)
    (installed : catalog.registry = some (.ofTexts procedures)) (known : name ∈ keysOf procedures) :
    ∃ journal, journal.events = catalog.journal.events ++ [.uninstalled (passedText name)] ∧
      retire (.text name) id catalog = .ok ()
        { catalog with
          scripts := catalog.scripts.set id .destroyed
          registry := some (.ofTexts (eraseField name procedures))
          journal } := by
  obtain ⟨journal, events, ran⟩ := uninstall_eq
    { catalog with
      journal := catalog.journal.log .info .scriptTable
        s!"Redefining script {(Datum.text name).display}" } there named installed known
  refine ⟨journal, by rw [events, Journal.events_log], ?_⟩
  refine (Act.modify_bind _ _ _).trans ?_
  refine (Act.bind_of_ok _ ran).trans ?_
  exact destroy_eq _ there

/-! Adding and removing. -/

variable {entries : List (String × ScriptId)}

theorem find_underTexts (tabled : catalog.table.entries = underTexts entries) (name : String) :
    catalog.table.find? (.text name) = .ok (entries.lookup name) := by
  simp only [ScriptTable.find?, tabled, lookup_underTexts]
  rfl

/-- The catalog with other entries in its table. -/
def withEntries (entries : List (String × ScriptId)) (catalog : Catalog) : Catalog :=
  { catalog with table := { catalog.table with entries := underTexts entries } }

theorem setEntries_put (tabled : catalog.table.entries = underTexts entries) :
    setEntries (putField (.text name) id catalog.table.entries) catalog =
      .ok () (withEntries (putField name id entries) catalog) := by
  rw [tabled, putField_underTexts]
  rfl

theorem setEntries_erase (tabled : catalog.table.entries = underTexts entries) :
    setEntries (eraseField (.text name) catalog.table.entries) catalog =
      .ok () (withEntries (eraseField name entries) catalog) := by
  rw [tabled, eraseField_underTexts]
  rfl

theorem add_eq (there : catalog.scripts[id]? = some (.ofArguments profile arguments))
    (texts : profile.AllTexts) (named : profile.name = .text name)
    (tabled : catalog.table.entries = underTexts entries)
    (installed : catalog.registry = some (.ofTexts procedures))
    (free : entries.lookup name = none ∨ entries.lookup name = some id) :
    ∃ journal, journal.events =
        catalog.journal.events ++ [.installed (passedText name), .added (passedText name)] ∧
      add id catalog = .ok ()
        { withEntries (putField name id entries) catalog with
          registry := some (.ofTexts
            (putField name (.exported catalog.table.kind profile arguments) procedures))
          journal } := by
  obtain ⟨journal, events, ran⟩ := install_eq
    (withEntries (putField name id entries) catalog) catalog.table.kind there texts named installed
  have finished : (do
      let _ ← install id catalog.table.kind
      emit (.added (passedText name)) : Act Catalog Unit)
      (withEntries (putField name id entries) catalog) = .ok () _ := Act.bind_of_ok _ ran
  refine ⟨journal.emit (.added (passedText name)), ?_, ?_⟩
  · rw [Journal.events_emit, events, List.append_assoc]
    rfl
  · unfold add
    refine (Act.bind_of_ok _ (name_ok catalog there named)).trans ?_
    refine (Act.get_bind _ _).trans ?_
    simp only [find_underTexts catalog tabled]
    refine (Act.ofExcept_ok_bind _ _ _).trans ?_
    refine (Act.bind_of_ok _ (setEntries_put catalog tabled)).trans ?_
    rcases free with unused | same
    · rw [unused]
      exact finished
    · rw [same]
      simp only [ne_eq, not_true_eq_false, if_false]
      exact finished

theorem add_replacing_eq {previous : ScriptId} {profileBefore : Profile}
    {argumentsBefore : List Argument}
    (there : catalog.scripts[id]? = some (.ofArguments profile arguments))
    (texts : profile.AllTexts) (named : profile.name = .text name)
    (tabled : catalog.table.entries = underTexts entries)
    (installed : catalog.registry = some (.ofTexts procedures))
    (found : entries.lookup name = some previous) (different : previous ≠ id)
    (before : catalog.scripts[previous]? = some (.ofArguments profileBefore argumentsBefore))
    (namedBefore : profileBefore.name = .text name) (known : name ∈ keysOf procedures) :
    ∃ journal, journal.events = catalog.journal.events ++ [.uninstalled (passedText name),
        .installed (passedText name), .added (passedText name)] ∧
      add id catalog = .ok ()
        { withEntries (putField name id entries) catalog with
          scripts := catalog.scripts.set previous .destroyed
          registry := some (.ofTexts (putField name
            (.exported catalog.table.kind profile arguments) (eraseField name procedures)))
          journal } := by
  obtain ⟨between, eventsBetween, retired⟩ := retire_eq
    (withEntries (putField name id entries) catalog) before namedBefore installed known
  have still : (catalog.scripts.set previous .destroyed)[id]? =
      some (.ofArguments profile arguments) := by
    rw [List.getElem?_set_ne different]
    exact there
  obtain ⟨journal, events, ran⟩ := install_eq
    { withEntries (putField name id entries) catalog with
      scripts := catalog.scripts.set previous .destroyed
      registry := some (.ofTexts (eraseField name procedures))
      journal := between } catalog.table.kind still texts named rfl
  refine ⟨journal.emit (.added (passedText name)), ?_, ?_⟩
  · rw [Journal.events_emit, events]
    simp only [eventsBetween, List.append_assoc]
    rfl
  · unfold add
    refine (Act.bind_of_ok _ (name_ok catalog there named)).trans ?_
    refine (Act.get_bind _ _).trans ?_
    simp only [find_underTexts catalog tabled]
    refine (Act.ofExcept_ok_bind _ _ _).trans ?_
    refine (Act.bind_of_ok _ (setEntries_put catalog tabled)).trans ?_
    rw [found]
    simp only [ne_eq, different, not_false_eq_true, if_true]
    refine (Act.bind_of_ok _ retired).trans ?_
    exact Act.bind_of_ok _ ran

theorem remove_eq (there : catalog.scripts[id]? = some (.ofArguments profile arguments))
    (named : profile.name = .text name)
    (tabled : catalog.table.entries = underTexts entries)
    (installed : catalog.registry = some (.ofTexts procedures))
    (found : entries.lookup name = some id) (known : name ∈ keysOf procedures) :
    ∃ journal, journal.events =
        catalog.journal.events ++ [.uninstalled (passedText name), .removed (passedText name)] ∧
      remove (.text name) catalog = .ok ()
        { withEntries (eraseField name entries) catalog with
          scripts := catalog.scripts.set id .destroyed
          registry := some (.ofTexts (eraseField name procedures))
          journal } := by
  obtain ⟨journal, events, ran⟩ := uninstall_eq
    (withEntries (eraseField name entries) catalog) there named installed known
  have destroyed := destroy_eq
    { withEntries (eraseField name entries) catalog with
      registry := some (.ofTexts (eraseField name procedures))
      journal } there
  refine ⟨journal.emit (.removed (passedText name)), ?_, ?_⟩
  · rw [Journal.events_emit, events, List.append_assoc]
    rfl
  · unfold remove
    refine (Act.get_bind _ _).trans ?_
    simp only [find_underTexts catalog tabled]
    refine (Act.ofExcept_ok_bind _ _ _).trans ?_
    rw [found]
    refine (Act.bind_of_ok _ (setEntries_erase catalog tabled)).trans ?_
    refine (Act.bind_of_ok _ ran).trans ?_
    exact Act.bind_of_ok _ destroyed

theorem after_remove_unknown (name : Datum) (unknown : catalog.table.entries.lookup name = none) :
    Act.after (remove name) catalog = catalog := by
  have failed : ∃ fault, remove name catalog = .error fault catalog := by
    unfold remove
    rw [Act.get_bind]
    cases looked : catalog.table.find? name with
    | error fault => exact ⟨fault, rfl⟩
    | ok found =>
        obtain ⟨_, _, same⟩ := (Except.bind_eq_ok _ _ _).mp looked
        cases same
        rw [unknown]
        exact ⟨_, rfl⟩
  obtain ⟨fault, failed⟩ := failed
  exact Act.after_of_error failed

end Catalog

end ScriptCatalog
