import ScriptCatalog.Proofs.Tool.CommandLine

/-! Running the tool. The settings are opened first. Then either no script file is named, or its
fault decides what comes of the call, or the table is full and shown. -/

namespace ScriptCatalog

variable [Platform]

open Journal Workspace

namespace Tool

/-- The settings, if they are to be shown. -/
def settingsLines (options : ToolOptions) (config : Config) : List String :=
  if options.settings then [settings config] else []

variable {options : ToolOptions} {words : List String} {files after : Files} {config : Config}
  {journal : Journal} {path : String}

theorem serves_of_opened (opened : sharedConfig (settingsPath options files) { empty with files } =
      .ok 0 (withSettings config after journal)) :
    config.serves = true ∧ Quiet [] journal := by
  rcases sharedConfig_fresh files (settingsPath options files) with
    ⟨_, _, _, ran, serves, quiet⟩ | ⟨_, _, failed, _⟩
  · rw [opened] at ran
    cases ran
    exact ⟨serves, quiet⟩
  · rw [opened] at failed
    cases failed

section

variable (opened : sharedConfig (settingsPath options files) { empty with files } =
  .ok 0 (withSettings config after journal))

include opened

theorem run_without_file (noFile : options.scriptFile = none) :
    ∃ code space, (code = 0 ∨ code = 1) ∧ run options { empty with files } = .ok code space := by
  have there : Workspace.config 0 (withSettings config after journal) =
      .ok config (withSettings config after journal) := rfl
  obtain ⟨space, ran⟩ : ∃ space, run options { empty with files } =
      (if options.list || options.describe.isSome || options.command.isSome then do
        complain "A script file is required with --list, --describe and --command"
        return 1
      else return 0 : Act Workspace Nat) space := by
    rw [run, Act.get_bind, Act.bind_of_ok _ opened, Act.bind_of_ok _ there, noFile]
    cases options.settings <;> exact ⟨_, rfl⟩
  rw [ran]
  split
  · exact ⟨1, _, .inr rfl, rfl⟩
  · exact ⟨0, _, .inl rfl, rfl⟩

/-- With a script file, the table is filled and shown after the settings. -/
theorem run_with_file (named : options.scriptFile = some path) :
    run options { empty with files } =
      (do if ← reporting path (loadInto 0 path) then present options config 0 0 else return 1 :
        Act Workspace Nat)
        ((withSettings config after []).shelve
          (emptyShelf (journal ++ printed (settingsLines options config)))) := by
  have there : Workspace.config 0 (withSettings config after journal) =
      .ok config (withSettings config after journal) := rfl
  rw [run, Act.get_bind, Act.bind_of_ok _ opened, Act.bind_of_ok _ there, named, settingsLines]
  cases options.settings with
  | false =>
      simp only [Bool.false_eq_true, if_false, printed, List.map_nil, List.append_nil]
      rfl
  | true => rfl

end

/-! Calls. -/

/-- That lines are written, with log records among them if the user wants to see them. -/
def Report.Writes (options : ToolOptions) (lines : Journal) (report : Report) : Prop :=
  ∃ journal : Journal, journal.lines = lines ∧
    report.output = Tool.output options.verbose journal ∧
    report.complaints = Tool.complaints journal

theorem call_outcome (understood : ToolOptions.ofWords words = .ok options) (files : Files) :
    (call files words).outcome = (run options).outcome { empty with files } := by
  simp only [call, understood, Act.outcome]
  cases run options { empty with files } <;> rfl

/-- Without settings no script file is read. -/
theorem call_of_unopened (understood : ToolOptions.ofWords words = .ok options) {fault : Fault}
    {space : Workspace}
    (failed : sharedConfig (settingsPath options files) { empty with files } =
      .error fault space) :
    (call files words).outcome = .error fault := by
  have stopped : run options { empty with files } = .error fault space := by
    rw [run, Act.get_bind]
    exact Act.bind_of_error _ failed
  rw [call_outcome understood, Act.outcome_of_error stopped]

theorem call_writes (understood : ToolOptions.ofWords words = .ok options) (files : Files) :
    (call files words).Writes options ((run options).after { empty with files }).journal.lines := by
  refine ⟨((run options).after { empty with files }).journal, rfl, ?_⟩
  simp only [call, understood, Act.after]
  cases run options { empty with files } <;> exact ⟨rfl, rfl⟩

theorem lines_before (opened : sharedConfig (settingsPath options files) { empty with files } =
      .ok 0 (withSettings config after journal)) :
    (journal ++ printed (settingsLines options config)).lines =
      printed (settingsLines options config) := by
  rw [lines_append, (serves_of_opened opened).2.lines_eq, lines_printed]
  rfl

section

variable (understood : ToolOptions.ofWords words = .ok options)
  (opened : sharedConfig (settingsPath options files) { empty with files } =
    .ok 0 (withSettings config after journal))
  (named : options.scriptFile = some path)

include understood opened named

/-- A script file that fails to load decides what comes of a call. -/
theorem call_of_failed {fault : Fault} (whole : after.IsWhole path)
    (failed : (Registration.loadFile .standard after path).outcome [] = .error fault) :
    isReported fault.raised = true ∧ (call files words).outcome = .ok 1 ∧
      (call files words).Writes options
        (printed (settingsLines options config) ++ [.complained (fault.raised.message ++ "\n")]) ∨
    fault.Escapes ∧ (call files words).outcome = .error fault ∧
      (call files words).Writes options (printed (settingsLines options config)) := by
  have written := call_writes understood files
  have before := lines_before opened
  have run := run_with_file opened named
  obtain ⟨loaded, ran⟩ := Act.error_of_outcome ((Registration.blind_loadFile after
    (journal ++ printed (settingsLines options config)) []).trans failed)
  have quiet := Registration.quiet_loadFile .standard after path
    (journal ++ printed (settingsLines options config))
  rw [Act.after_of_error ran] at quiet
  have stopped := loadInto_of_failed (withSettings config after []) ran
  rw [call_outcome understood]
  -- The same fault comes of loading with an empty journal and with what was written before.
  rcases Registration.loadFile_fails whole _ fault loaded ran with reported | escapes
  · have raised := isReported_raised reported
    obtain ⟨space, answered, lines⟩ := reporting_of_reported path stopped raised
    have finished := run.trans (Act.bind_of_ok _ answered)
    refine .inl ⟨raised, Act.outcome_of_ok finished, ?_⟩
    rw [Act.after_of_ok finished, lines] at written
    change (call files words).Writes options (loaded.lines ++ _) at written
    rwa [quiet.lines_eq, before] at written
  · have unreported : isReported fault.raised = false := by
      rw [Fault.raised_of_escapes escapes]
      exact not_isReported_of_escapes escapes
    have broken := reporting_of_unreported path stopped unreported
    have finished := run.trans (Act.bind_of_error _ broken)
    refine .inr ⟨escapes, Act.outcome_of_error finished, ?_⟩
    rw [Act.after_of_error finished] at written
    change (call files words).Writes options loaded.lines at written
    rwa [quiet.lines_eq, before] at written

/-- A script file that loads is shown. -/
theorem call_of_defined {entries : List Json}
    {definitions : List Definition} (read : Registration.readEntries after path = .ok entries)
    (defined : List.Forall₂ (Registration.Defines .standard) entries definitions) :
    ∃ names precision titles lines,
      names.Pairwise (· < ·) ∧
      (∀ name, name ∈ names ↔ ∃ definition ∈ definitions, definition.texts.name = name) ∧
      placesOf options config = .ok precision ∧
      List.Forall₂ (Presents TellsTitle definitions) (if options.list then names else []) titles ∧
      Shown options definitions precision names (call files words).outcome lines ∧
      (call files words).Writes options
        (printed (settingsLines options config ++ titles) ++ lines) := by
  have written := call_writes understood files
  have run := run_with_file opened named
  obtain ⟨loaded, ran⟩ := Act.ok_of_outcome ((Registration.loadFile_eq_ok_iff after
    (journal ++ printed (settingsLines options config))).mpr
      ⟨entries, definitions, read, defined, rfl⟩)
  obtain ⟨catalog, tabled, procedures, added, filled, quiet⟩ :=
    loadInto_of_loaded (withSettings config after []) ran
  have serve (definition : Definition) (member : definition ∈ definitions) :
      ∀ argument ∈ definition.arguments, argument.Serves .standard True := by
    obtain ⟨entry, among, defines⟩ := exists_mem_of_forall₂ defined member
    exact defines.serves (Registration.hasFewDigits_of_readEntries read entry among)
  obtain ⟨precision, titles, lines, set, tells, shown, presented⟩ :=
    present_cases (withSettings config after [])
      (ToolOptions.asksNames_ofWords understood) filled serve (serves_of_opened opened).1
  have same := run.trans (Act.bind_of_ok _ (reporting_of_ok path added))
  refine ⟨Catalog.sortedNames tabled, precision, titles, lines,
    Catalog.pairwise_sortedNames filled.inStep.distinct, filled.mem_names, set, tells, ?_, ?_⟩
  · rw [call_outcome understood, Act.outcome, same]
    exact shown
  · rw [Act.after, same] at written
    change (call files words).Writes options
      (Act.after (present options config 0 0) _).journal.lines at written
    rwa [presented, quiet.lines_eq, lines_before opened, ← printed_append] at written

end

end Tool

end ScriptCatalog
