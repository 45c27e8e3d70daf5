import ScriptCatalog.Proofs.Catalog.Filled
import ScriptCatalog.Proofs.Tool.Settings

/-! Loading a script file into the table of the tool. Either the table is filled with the scripts
of all entries, or the fault of the file is reported and nothing else is, or the fault is one of the
two sorts that are not reported. -/

namespace ScriptCatalog

variable [Platform]

open Journal

/-! How script files fail. -/

/-- The faults of a script file that the tool does not report: something else stands where a list is
expected, or no number is near to an integer. -/
def Fault.Escapes (fault : Fault) : Prop :=
  (∃ type, fault = .notIterable type) ∨ fault = .intTooLarge

/-- What can be wrong with a script file that is whole. -/
def Fault.IsFileFault (fault : Fault) : Prop := Tool.isReported fault = true ∨ fault.Escapes

/-- Another fault can be raised in the place of one that is reported, which is reported then. -/
theorem Tool.isReported_raised {fault : Fault} (reported : isReported fault = true) :
    isReported fault.raised = true := by
  have obstacles (obstacle : Obstacle) : isReported obstacle.fault = true := by
    rcases obstacle.kind_fault with kind | kind <;> rw [isReported, kind] <;> rfl
  by_cases plain : fault.IsPlain
  · rcases fault.raised_cases plain with ⟨_, same⟩ | ⟨_, _, obstacle, _, same⟩
    · rw [same]
      exact reported
    · rw [same]
      exact obstacles obstacle
  · simp only [Fault.IsPlain, not_forall, not_not] at plain
    obtain ⟨script, position, kind, label, default, cause, rfl⟩ := plain
    rw [Fault.raised]
    split
    next deep =>
      rw [isReported, deep]
      rfl
    next =>
      cases default.unshown? with
      | none => rfl
      | some obstacle => exact obstacles obstacle

theorem Fault.raised_of_escapes {fault : Fault} (escapes : fault.Escapes) :
    fault.raised = fault := by
  rcases escapes with ⟨type, rfl⟩ | rfl <;> rfl

theorem Fault.isFileFault_of_trouble {fault : Fault} (trouble : fault.IsFileTrouble) :
    fault.IsFileFault := by
  rcases trouble with trouble | rfl
  · refine .inl ?_
    rw [Tool.isReported, trouble]
    rfl
  · exact .inl rfl

theorem Fault.isFileFault_of_badValue {fault : Fault} (bad : fault.kind = .badValue) :
    fault.IsFileFault := by
  refine .inl ?_
  rw [Tool.isReported, bad]
  rfl

theorem Tool.not_isReported_of_escapes {fault : Fault} (escapes : fault.Escapes) :
    isReported fault = false := by
  rcases escapes with ⟨type, rfl⟩ | rfl <;> rfl

namespace Registration

variable {types : EnumTypes} {path : String}

theorem readEntries_fails {files : Files} (whole : files.IsWhole path) :
    FailsOnly Fault.IsFileFault (readEntries files path) := by
  refine FailsOnly.bind ?_ fun text read => ?_
  · exact fun fault failed => Fault.isFileFault_of_trouble (files.read_fails path fault failed)
  · cases document : Json.read text with
    | error cause =>
        cases cause with
        | malformed fault => exact failsOnly_error (.inl rfl)
        | beyond limit =>
            cases limit with
            | halfPair => exact absurd document (whole text read)
            | _ => exact failsOnly_error (.inl rfl)
    | ok value =>
        cases value with
        | array entries => exact failsOnly_ok _
        | _ => exact failsOnly_error (.inl rfl)

theorem items_fails (value : Datum) : FailsOnly Fault.IsFileFault value.items := by
  rw [Datum.items]
  cases value.items? with
  | none => exact failsOnly_error (.inr (.inl ⟨_, rfl⟩))
  | some items => exact failsOnly_ok _

theorem fileDeclarations_fails (args : Json) :
    FailsOnly Fault.IsFileFault (fileDeclarations args) := by
  refine (items_fails _).bind fun declarations _ fault failed => ?_
  obtain ⟨_, declaration, _, _, _, failed⟩ := (mapM_eq_error_iff _ _ _).mp failed
  exact (items_fails declaration).bind (fun _ _ => failsOnly_ok _) fault failed

theorem ofFileEntry_fails (index : Nat) (entry : Json) :
    FailsOnly Fault.IsFileFault (ofFileEntry path index entry) := by
  unfold ofFileEntry
  dsimp only
  cases entry.field? "name" with
  | none => exact failsOnly_error (.inl rfl)
  | some name => exact (fileDeclarations_fails _).bind fun _ _ => failsOnly_ok _

theorem listed_of_ofFileEntry {index : Nat} {entry : Json} {registration : Registration}
    (filed : ofFileEntry path index entry = .ok registration) :
    ∃ items, registration.declarations = .list items := by
  unfold ofFileEntry at filed
  dsimp only at filed
  cases name : entry.field? "name" with
  | none =>
      rw [name] at filed
      cases filed
  | some value =>
      rw [name] at filed
      obtain ⟨declarations, _, same⟩ := (Except.bind_eq_ok _ _ _).mp filed
      cases same
      exact ⟨declarations, rfl⟩

theorem scriptName_fails (name : Datum) : FailsOnly Fault.IsFileFault (scriptName name) := by
  cases name with
  | text words =>
      rw [scriptName]
      split
      · exact failsOnly_error (.inl rfl)
      · exact failsOnly_ok _
  | _ => exact failsOnly_error (.inl rfl)

theorem fieldText_fails (script field : String) (value : Datum) :
    FailsOnly Fault.IsFileFault (fieldText script field value) := by
  cases value with
  | text words => exact failsOnly_ok _
  | _ => exact failsOnly_error (.inl rfl)

theorem profile_fails (registration : Registration) (name : String) :
    FailsOnly Fault.IsFileFault (registration.profile name) :=
  (fieldText_fails _ _ _).bind fun _ _ => (fieldText_fails _ _ _).bind fun _ _ =>
    (fieldText_fails _ _ _).bind fun _ _ => (fieldText_fails _ _ _).bind fun _ _ =>
      (fieldText_fails _ _ _).bind fun _ _ => (fieldText_fails _ _ _).bind fun _ _ => failsOnly_ok _

theorem arguments_fails (script : String) (position : Nat) (declarations : List Datum) :
    FailsOnly Fault.IsFileFault (Registration.arguments types script position declarations) := by
  intro fault failed
  obtain ⟨_, declaration, _, _, _, failed⟩ := arguments_eq_error failed
  rcases argument_eq_error failed with reported | ⟨escapes, _⟩
  · exact Fault.isFileFault_of_badValue reported.1.1
  · exact .inr (.inr escapes)

theorem script_fails {registration : Registration} {items : List Datum}
    (listed : registration.declarations = .list items) :
    FailsOnly Fault.IsFileFault (registration.script types) := by
  refine (scriptName_fails _).bind fun name _ => ?_
  refine (profile_fails registration name).bind fun _ _ => ?_
  refine FailsOnly.bind ?_ fun _ _ => (arguments_fails name 1 _).bind fun _ _ => failsOnly_ok _
  rw [Registration.listed, listed]
  exact failsOnly_ok items

theorem register_fails {registration : Registration} {items : List Datum}
    (listed : registration.declarations = .list items) :
    Act.FailsOnly Fault.IsFileFault (registration.register types) :=
  (scriptName_fails _).act_bind fun _ _ => (script_fails listed).act_bind fun script _ =>
    (Act.failsOnly_modify _).bind fun _ => Act.failsOnly_pure script

theorem registerEntries_fails (index : Nat) (entries : List Json) :
    Act.FailsOnly Fault.IsFileFault (registerEntries types path index entries) := by
  induction entries generalizing index with
  | nil => exact Act.failsOnly_pure []
  | cons entry entries ih =>
      cases entry with
      | object fields =>
          refine (ofFileEntry_fails index _).act_bind fun registration filed => ?_
          obtain ⟨items, listed⟩ := listed_of_ofFileEntry filed
          refine (register_fails listed).bind fun script => ?_
          exact (ih (index + 1)).bind fun scripts => Act.failsOnly_pure _
      | _ =>
          rintro journal fault after ⟨⟩
          exact .inl rfl

theorem loadFile_fails {files : Files} (whole : files.IsWhole path) :
    Act.FailsOnly Fault.IsFileFault (loadFile types files path) :=
  (readEntries_fails whole).act_bind fun entries _ =>
    (registerEntries_fails 0 entries).bind fun scripts =>
      (Act.failsOnly_modify _).bind fun _ => Act.failsOnly_pure scripts

/-! What comes of a file does not hang on what was written before. -/

theorem blind_register (registration : Registration) :
    (registration.register types).Blind :=
  (Act.blind_ofExcept _).bind fun _ => (Act.blind_ofExcept _).bind fun script =>
    (Act.blind_modify _).bind fun _ => Act.blind_pure script

theorem blind_registerEntries (index : Nat) (entries : List Json) :
    (registerEntries types path index entries).Blind := by
  induction entries generalizing index with
  | nil => exact Act.blind_pure []
  | cons entry entries ih =>
      cases entry with
      | object fields =>
          refine (Act.blind_ofExcept _).bind fun registration => ?_
          refine (blind_register registration).bind fun script => ?_
          exact (ih (index + 1)).bind fun scripts => Act.blind_pure _
      | _ => exact Act.blind_throw _

theorem blind_loadFile (files : Files) : (loadFile types files path).Blind :=
  (Act.blind_ofExcept _).bind fun entries => (blind_registerEntries 0 entries).bind fun scripts =>
    (Act.blind_modify _).bind fun _ => Act.blind_pure scripts

end Registration

/-! The table of the tool. -/

namespace Workspace

variable (base : Workspace)

/-- The one table of a tool, with the one registry that it installs in. -/
def shelve (base : Workspace) (catalog : Catalog) : Workspace :=
  { base with
    scripts := catalog.scripts
    registries := catalog.registry.toList
    tables := [{ table := catalog.table, registry := some 0 }]
    journal := catalog.journal }

theorem onTable_shelve {α : Type} {act : Act Catalog α} {catalog next : Catalog} {value : α}
    {registry changed : Registry} (ran : act catalog = .ok value next)
    (before : catalog.registry = some registry) (after : next.registry = some changed) :
    onTable 0 act (base.shelve catalog) = .ok value (base.shelve next) := by
  obtain ⟨scripts, table, _, journal⟩ := catalog
  obtain ⟨scriptsNext, tableNext, _, journalNext⟩ := next
  cases before
  cases after
  have same : (base.shelve ⟨scripts, table, some registry, journal⟩).catalog
      { table, registry := some 0 } = ⟨scripts, table, some registry, journal⟩ := rfl
  have there : (base.shelve ⟨scripts, table, some registry, journal⟩).tables[0]? =
      some { table, registry := some 0 } := rfl
  simp only [onTable, there, same, ran]
  rfl

theorem mapM_addScript (scripts : List Script) (space : Workspace) :
    scripts.mapM addScript space = .ok (List.range' space.scripts.length scripts.length)
      { space with scripts := space.scripts ++ scripts } := by
  induction scripts generalizing space with
  | nil =>
      rw [List.mapM_nil, List.append_nil]
      rfl
  | cons script scripts ih =>
      have first : addScript script space = .ok space.scripts.length
          { space with scripts := space.scripts ++ [script] } := rfl
      rw [List.mapM_cons, Act.bind_of_ok _ first, Act.bind_of_ok _ (ih _)]
      rw [List.length_append, List.append_assoc]
      rfl

open Catalog in
/-- The scripts that wait are added one after the other. -/
theorem forM_addToTable {definitions done rest : List Definition} {catalog : Catalog}
    {entries : List (String × ScriptId)} {procedures : List (String × Procedure)}
    (filled : Filled definitions done catalog entries procedures)
    (split : definitions = done ++ rest) :
    ∃ after entriesAfter proceduresAfter,
      (List.range' done.length rest.length).forM (fun id => addToTable 0 (some id))
        (base.shelve catalog) = .ok () (base.shelve after) ∧
      Filled definitions definitions after entriesAfter proceduresAfter ∧
      Quiet catalog.journal after.journal := by
  -- The scripts are numbered as they were defined, so that those added are a prefix.
  induction rest generalizing done catalog entries procedures with
  | nil =>
      rw [List.append_nil] at split
      rw [split] at filled ⊢
      exact ⟨catalog, entries, procedures, rfl, filled, refl_of Quiet _⟩
  | cons next rest ih =>
      obtain ⟨between, proceduresBetween, ran, filledBetween⟩ := filled.add split
      have quiet := quiet_add done.length catalog
      rw [Act.after_of_ok ran] at quiet
      have added := base.onTable_shelve ran filled.inStep.installed filledBetween.inStep.installed
      rw [List.append_cons] at split
      obtain ⟨after, entriesAfter, proceduresAfter, finished, filledAfter, quietAfter⟩ :=
        ih filledBetween split
      rw [List.length_append] at finished
      exact ⟨after, entriesAfter, proceduresAfter, (Act.bind_of_ok _ added).trans finished,
        filledAfter, trans_of Quiet quiet quietAfter⟩

end Workspace

namespace Tool

open Workspace Catalog

variable (base : Workspace) {path : String} {journal loaded : Journal} {fault : Fault}

/-- An empty table, and what was written so far. -/
def emptyShelf (journal : Journal) : Catalog := { start .temporary [] with journal }

theorem loadScripts_of_loaded {registered : List Script}
    (ran : Registration.loadFile base.types base.files path journal = .ok registered loaded) :
    loadScripts path (base.shelve (emptyShelf journal)) =
      .ok (List.range' 0 registered.length)
        (base.shelve { start .temporary registered with journal := loaded }) := by
  have read : onJournal (Registration.loadFile base.types base.files path)
      (base.shelve (emptyShelf journal)) = .ok registered (base.shelve (emptyShelf loaded)) := by
    have given : Registration.loadFile base.types base.files path
        (base.shelve (emptyShelf journal)).journal = .ok registered loaded := ran
    simp only [onJournal, Act.on, given]
    rfl
  exact (Act.bind_of_ok _ read).trans (mapM_addScript registered _)

/-- A file that loads fills the table, and nothing is written. -/
theorem loadInto_of_loaded {definitions : List Definition}
    (ran : Registration.loadFile base.types base.files path journal =
      .ok (definitions.map Definition.script) loaded) :
    ∃ catalog entries procedures, loadInto 0 path (base.shelve (emptyShelf journal)) =
        .ok () (base.shelve catalog) ∧
      Filled definitions definitions catalog entries procedures ∧
      Quiet journal catalog.journal := by
  have quiet := Registration.quiet_loadFile base.types base.files path journal
  rw [Act.after_of_ok ran] at quiet
  obtain ⟨catalog, entries, procedures, added, filled, quietAfter⟩ :=
    base.forM_addToTable (filled_start definitions loaded) (List.nil_append _).symm
  refine ⟨catalog, entries, procedures, ?_, filled, trans_of Quiet quiet quietAfter⟩
  have read := loadScripts_of_loaded base ran
  rw [List.length_map] at read
  exact (Act.bind_of_ok _ read).trans added

theorem loadInto_of_failed
    (failed : Registration.loadFile base.types base.files path journal = .error fault loaded) :
    loadInto 0 path (base.shelve (emptyShelf journal)) =
      .error fault (base.shelve (emptyShelf loaded)) := by
  have given : Registration.loadFile base.types base.files path
      (base.shelve (emptyShelf journal)).journal = .error fault loaded := failed
  have read : onJournal (Registration.loadFile base.types base.files path)
      (base.shelve (emptyShelf journal)) = .error fault (base.shelve (emptyShelf loaded)) := by
    simp only [onJournal, Act.on, given]
    rfl
  have stopped : loadScripts path (base.shelve (emptyShelf journal)) =
      .error fault (base.shelve (emptyShelf loaded)) := by
    rw [loadScripts, Act.get_bind]
    exact Act.bind_of_error _ read
  exact Act.bind_of_error _ stopped

/-! Reporting. -/

theorem reporting_of_ok (path : String) {act : Act Workspace Unit} {space next : Workspace}
    (ran : act space = .ok () next) : reporting path act space = .ok true next := by
  simp only [reporting, ran]

theorem reporting_of_unreported (path : String) {act : Act Workspace Unit}
    {space next : Workspace} (failed : act space = .error fault next)
    (unreported : isReported fault.raised = false) :
    reporting path act space = .error fault next := by
  simp only [reporting, failed, unreported, Bool.false_eq_true, if_false]

/-- The message of what is raised is all that is written, if that is reported. -/
theorem reporting_of_reported (path : String) {act : Act Workspace Unit}
    {space next : Workspace} (failed : act space = .error fault next)
    (reported : isReported fault.raised = true) :
    ∃ after, reporting path act space = .ok false after ∧
      after.journal.lines =
        next.journal.lines ++ [.complained (fault.raised.message ++ "\n")] := by
  simp only [reporting, failed, reported, if_true]
  refine ⟨_, rfl, ?_⟩
  exact (lines_append _ _).trans (congrArg (· ++ _) (quiet_log _ _ _ _).lines_eq)

end Tool

end ScriptCatalog
