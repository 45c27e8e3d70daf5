import ScriptCatalog.Proofs.Runner.Recording
import ScriptCatalog.Proofs.Script.Storing

/-! Runs without interaction. Such a run fails before it changed anything, or it has stored every
value of the invocation and given exactly one command to the interpreter. Only where it is not
settled whether commands are logged, or the history cannot be trimmed to its room, has it stored the
values and given no command. -/

namespace ScriptCatalog

namespace RunDesk

section

variable [Platform]

variable {α : Type}

theorem onScript_of_ok {act : ScriptAct α} {desk : RunDesk} {value : α} {after : Script}
    (ran : act desk.script = .ok value after) :
    onScript act desk = .ok value { desk with script := after } := by
  simp only [onScript, Act.on, ran]

theorem onScript_eq_ok {act : ScriptAct α} {desk after : RunDesk} {value : α}
    (ran : onScript act desk = .ok value after) :
    act desk.script = .ok value after.script ∧ after.record = desk.record := by
  simp only [onScript, Act.on] at ran
  cases inside : act desk.script with
  | ok given script =>
      rw [inside] at ran
      cases ran
      exact ⟨rfl, rfl⟩
  | error fault script =>
      rw [inside] at ran
      cases ran

theorem onRecord_of_ofExcept {act : Act HistoryDesk α} {desk : RunDesk} {outcome : Except Fault α}
    {after : HistoryDesk} (ran : act desk.record = Act.ofExcept outcome after) :
    onRecord act desk = Act.ofExcept outcome { desk with record := after } := by
  simp only [onRecord, Act.on, ran]
  cases outcome with
  | ok value => rfl
  | error fault => rfl

theorem onRecord_of_error {act : Act HistoryDesk α} {desk : RunDesk} {fault : Fault}
    {after : HistoryDesk} (failed : act desk.record = .error fault after) :
    onRecord act desk = .error fault { desk with record := after } := by
  simp only [onRecord, Act.on, failed]

/-- Executing a command, as the last step of a run. -/
theorem execute_some {interpret : Interpreter} {config : Config} {command : Datum}
    {desk : RunDesk} {record : HistoryDesk}
    (recorded : HistoryDesk.execute interpret config command desk.record =
      Act.ofExcept (interpret command) record) :
    (onRecord (HistoryDesk.execute interpret config command) >>= fun result =>
        pure (some result) : Act RunDesk (Option String)) desk =
      Act.ofExcept (some <$> interpret command) { desk with record } := by
  have ran := onRecord_of_ofExcept recorded
  cases outcome : interpret command with
  | ok result =>
      rw [outcome] at ran
      exact Act.bind_of_ok _ ran
  | error fault =>
      rw [outcome] at ran
      exact Act.bind_of_error _ ran

theorem reads_onScript {act : ScriptAct α} (reads : act.Reads) : (onScript act).Reads := by
  intro desk
  rcases reads desk.script with ⟨value, ran⟩ | ⟨fault, failed⟩
  · exact .inl ⟨value, onScript_of_ok ran⟩
  · refine .inr ⟨fault, ?_⟩
    simp only [onScript, Act.on, failed]

/-- A runner with settings and a history as they are declared: the settings define whether commands
are logged, and the history has room for a whole number of them. -/
structure Usable (config : Config) (desk : RunDesk) : Prop where
  defined : Config.logCommandsKey ∈ config.keys
  whole : ∃ room, desk.record.history.capacity.count? = some room

/-- What a run has stored: every value of the invocation, all of which could be rendered. -/
structure Stored (types : EnumTypes) (precision : Precision) (invocation : Invocation)
    (before after : RunDesk) (command : String) : Prop where
  rendered : Script.passedCommand types precision invocation before.script =
    .ok command before.script
  stored : Script.storeParams types invocation before.script = .ok () after.script
  holds : Script.HoldsParams types invocation before.script after.script

/-- What a run has done that came to the interpreter. -/
structure Executed (types : EnumTypes) (precision : Precision) (invocation : Invocation)
    (before after : RunDesk) (command : String) : Prop extends
    Stored types precision invocation before after command,
    HistoryDesk.Recorded (.text command) before.record after.record where
  newest : ∀ room, before.record.history.capacity.count? = some room →
    after.record.history = { before.record.history with
      commands := History.newest room (before.record.history.commands ++ [.text command]) }

/-- What comes of a run whose command was rendered and whose values were stored: the outcome of the
interpreter, or something keeps the command from there. -/
def ExecutesOrHalts (interpret : Interpreter) (types : EnumTypes) (config : Config)
    (precision : Precision) (invocation : Invocation) (desk : RunDesk) (command : String)
    (result : EStateM.Result Fault RunDesk (Option String)) : Prop :=
  (∃ after, Executed types precision invocation desk after command ∧
      result = Act.ofExcept (some <$> interpret (.text command)) after) ∨
    ∃ after fault, Stored types precision invocation desk after command ∧
      HistoryDesk.Halts config (.text command) desk.record after.record fault ∧
      result = .error fault after

theorem executesOrHalts (interpret : Interpreter) {types : EnumTypes} (config : Config)
    {precision : Precision} {invocation : Invocation} {desk : RunDesk} {command : String}
    {script : Script}
    (rendered : Script.passedCommand types precision invocation desk.script =
      .ok command desk.script)
    (stored : Script.storeParams types invocation desk.script = .ok () script)
    (holds : Script.HoldsParams types invocation desk.script script) :
    ExecutesOrHalts interpret types config precision invocation desk command
      ((onRecord (HistoryDesk.execute interpret config (.text command)) >>= fun result =>
        pure (some result) : Act RunDesk (Option String)) { desk with script }) := by
  rcases HistoryDesk.execute_cases interpret config (.text command) desk.record with
    ⟨record, executed, recorded⟩ | ⟨fault, record, failed, halts⟩
  · refine .inl ⟨⟨script, record⟩, ⟨⟨rendered, stored, holds⟩, recorded, fun room whole => ?_⟩,
      execute_some executed⟩
    have trimmed := History.trim_eq (desk.record.history.push (.text command)) room whole
    exact Except.ok.inj (recorded.trimmed.symm.trans trimmed)
  · exact .inr ⟨⟨script, record⟩, fault, ⟨rendered, stored, holds⟩, halts,
      Act.bind_of_error _ (onRecord_of_error failed)⟩

/-- What can come of rendering and storing: a failure that changes nothing, or a command and
arguments that hold every value of the invocation. -/
def StoresOrFails (types : EnumTypes) (precision : Precision) (invocation : Invocation)
    (desk : RunDesk) (result : EStateM.Result Fault RunDesk (Option String)) : Prop :=
  (∃ fault, result = .error fault desk) ∨
    ∃ command script,
      Script.passedCommand types precision invocation desk.script = .ok command desk.script ∧
        Script.storeParams types invocation desk.script = .ok () script ∧
        Script.HoldsParams types invocation desk.script script ∧
        result = .ok (some command) { desk with script }

theorem runCommand_noninteractive (dialog : Option ArgumentDialog) (types : EnumTypes)
    (precision : Precision) (invocation : Invocation) (desk : RunDesk) :
    StoresOrFails types precision invocation desk
      (runCommand dialog types precision invocation .noninteractive desk) := by
  have failed (fault : Fault) :
      StoresOrFails types precision invocation desk (.error fault desk) := .inl ⟨fault, rfl⟩
  unfold runCommand
  -- All there is before storing only reads, so that a failure there changes nothing.
  refine Act.reads_get.bind_elim failed fun held same => ?_
  refine (Act.reads_ofExcept invocation.size).bind_elim failed fun found _ => ?_
  by_cases fits : found = held.script.size + 1
  · simp only [fits, ne_eq, not_true_eq_false, if_false]
    have reads := Script.reads_passedCommand types precision invocation
    refine (reads_onScript reads).bind_elim failed fun command ran => ?_
    obtain ⟨rendered, _⟩ := onScript_eq_ok ran
    -- Storing cannot fail half way, for every value was converted once to be rendered.
    obtain ⟨script, stored, holds⟩ := Script.storeParams_of_passedCommand rendered
    refine .inr ⟨command, script, rendered, stored, holds, ?_⟩
    exact Act.bind_of_ok _ (onScript_of_ok stored)
  · simp only [fits, ne_eq, not_false_eq_true, if_true]
    refine (reads_onScript Script.reads_name).bind_elim failed fun _ _ => ?_
    exact failed _

/-- What can come of a run without interaction: a failure that changes nothing, or values that were
stored and one command that went through to the interpreter or was kept from it. -/
def AllOrNothing (interpret : Interpreter) (types : EnumTypes) (config : Config)
    (invocation : Invocation) (desk : RunDesk)
    (result : EStateM.Result Fault RunDesk (Option String)) : Prop :=
  (∃ fault, result = .error fault desk) ∨
    ∃ precision command, config.getPrecision = .ok precision ∧
      ExecutesOrHalts interpret types config precision invocation desk command result

theorem run_noninteractive (interpret : Interpreter) (dialog : Option ArgumentDialog)
    (types : EnumTypes) (config : Config) (invocation : Invocation) (desk : RunDesk)
    (mode : (do RunMode.ofDatum (← invocation.itemAt 0)) = .ok .noninteractive) :
    AllOrNothing interpret types config invocation desk
      (run interpret dialog types config invocation desk) := by
  have failed (fault : Fault) :
      AllOrNothing interpret types config invocation desk (.error fault desk) := .inl ⟨fault, rfl⟩
  unfold run
  refine (Act.reads_require _ _).bind_elim failed fun _ _ => ?_
  refine (Act.reads_ofExcept _).bind_elim failed fun _ _ => ?_
  refine (Act.reads_require _ _).bind_elim failed fun _ _ => ?_
  rw [mode]
  refine (Act.reads_ofExcept (.ok RunMode.noninteractive)).bind_elim failed fun _ same => ?_
  cases same
  refine (Act.reads_ofExcept config.getPrecision).bind_elim failed fun precision given => ?_
  obtain ⟨given, _⟩ := (Act.ofExcept_eq_ok _ _ _ _).mp given
  refine (reads_onScript Script.reads_name).bind_elim failed fun _ _ => ?_
  rcases runCommand_noninteractive dialog types precision invocation desk with
    ⟨fault, stopped⟩ | ⟨command, script, rendered, stored, holds, ran⟩
  · rw [Act.bind_of_error _ stopped]
    exact failed fault
  · rw [Act.bind_of_ok _ ran]
    exact .inr ⟨precision, command, given,
      executesOrHalts interpret config rendered stored holds⟩

theorem runCommand_of_rendered (dialog : Option ArgumentDialog) {types : EnumTypes}
    {precision : Precision} {invocation : Invocation} {desk : RunDesk} {command : String}
    {script : Script} (sized : invocation.size = .ok (desk.script.size + 1))
    (rendered : Script.passedCommand types precision invocation desk.script =
      .ok command desk.script)
    (stored : Script.storeParams types invocation desk.script = .ok () script) :
    runCommand dialog types precision invocation .noninteractive desk =
      .ok (some command) { desk with script } := by
  refine (Act.get_bind _ _).trans ?_
  rw [sized]
  refine (Act.ofExcept_ok_bind _ _ _).trans ?_
  simp only [ne_eq, not_true_eq_false, if_false]
  refine (Act.bind_of_ok _ (onScript_of_ok rendered)).trans ?_
  exact Act.bind_of_ok _ (onScript_of_ok stored)

/-- A run whose command can be rendered has stored its values when it is to be executed. -/
theorem run_eq_execute (interpret : Interpreter) (dialog : Option ArgumentDialog)
    {types : EnumTypes} {config : Config} {invocation : Invocation} (desk : RunDesk)
    {precision : Precision} {command : String} {script : Script}
    (mode : (do RunMode.ofDatum (← invocation.itemAt 0)) = .ok .noninteractive)
    (given : config.getPrecision = .ok precision)
    (sized : invocation.size = .ok (desk.script.size + 1))
    (rendered : Script.passedCommand types precision invocation desk.script =
      .ok command desk.script)
    (stored : Script.storeParams types invocation desk.script = .ok () script) :
    run interpret dialog types config invocation desk =
      (onRecord (HistoryDesk.execute interpret config (.text command)) >>= fun result =>
        pure (some result) : Act RunDesk (Option String)) { desk with script } := by
  have there : (!invocation.isNull) = true := by
    cases invocation with
    | null => cases sized
    | _ => rfl
  obtain ⟨profile, name, arguments, _, _, complete, named, _⟩ :=
    Script.passedCommand_eq_ok rendered
  have told : onScript Script.name desk = .ok (.text name) desk := by
    refine onScript_of_ok ?_
    rw [complete]
    exact Script.told_text (·.name) named
  unfold run
  rw [sized, mode, given]
  refine (Act.bind_of_ok _ (Act.require_of_true there _ _)).trans ?_
  refine (Act.ofExcept_ok_bind _ _ _).trans ?_
  refine (Act.bind_of_ok _ (Act.require_of_true rfl _ _)).trans ?_
  refine (Act.ofExcept_ok_bind _ _ _).trans ?_
  refine (Act.ofExcept_ok_bind _ _ _).trans ?_
  refine (Act.bind_of_ok _ told).trans ?_
  exact Act.bind_of_ok _ (runCommand_of_rendered dialog sized rendered stored)

/-- What can be rendered from an invocation of the right length is stored, and comes to the
interpreter if nothing keeps it from there. -/
theorem run_of_rendered (interpret : Interpreter) (dialog : Option ArgumentDialog)
    {types : EnumTypes} {config : Config} {invocation : Invocation} {desk : RunDesk}
    {precision : Precision} {command : String}
    (mode : (do RunMode.ofDatum (← invocation.itemAt 0)) = .ok .noninteractive)
    (given : config.getPrecision = .ok precision)
    (sized : invocation.size = .ok (desk.script.size + 1))
    (rendered : Script.passedCommand types precision invocation desk.script =
      .ok command desk.script) :
    ExecutesOrHalts interpret types config precision invocation desk command
      (run interpret dialog types config invocation desk) := by
  obtain ⟨script, stored, holds⟩ := Script.storeParams_of_passedCommand rendered
  rw [run_eq_execute interpret dialog desk mode given sized rendered stored]
  exact executesOrHalts interpret config rendered stored holds

/-- A run that came to the interpreter left no state in which nothing was given to it. -/
theorem Executed.ne_of_same {types : EnumTypes} {precision : Precision} {invocation : Invocation}
    {before after : RunDesk} {command : String}
    (executed : Executed types precision invocation before after command)
    (same : after.record.journal.commandsGiven = before.record.journal.commandsGiven) : False := by
  have given := congrArg List.length (executed.given.symm.trans same)
  rw [List.length_append, List.length_singleton] at given
  omega

section

variable (types : EnumTypes) (config : Config) (precision : Precision) (invocation : Invocation)
  (desk : RunDesk) (command : String) (result : EStateM.Result Fault RunDesk (Option String))

/-- A run stored its values and gave its command to the interpreter, whose outcome is its own. -/
def Executes (interpret : Interpreter) : Prop :=
  ∃ after, Executed types precision invocation desk after command ∧
    result = Act.ofExcept (some <$> interpret (.text command)) after

/-- A run stored its values and failed with its command kept from the interpreter, which happens
only with settings or a history that are not as they are declared. -/
def StopsShort : Prop :=
  ¬Usable config desk ∧ ∃ after fault, Stored types precision invocation desk after command ∧
    HistoryDesk.Halts config (.text command) desk.record after.record fault ∧
    result = .error fault after

end

end

/-- A script that has one text to be told, with what it has for it. -/
def told (words : Datum) : Script :=
  .ofArguments (.plain "s")
    [{ kind := .string, label := .text "A", default := .text .null, value := .text words }]

/-- A script that has one text to be told, with an empty history. -/
def sample : RunDesk :=
  { script := told .null
    record := { history := { commands := [], capacity := .int 2, capacity_pos := rfl }
                journal := [] } }

/-- Half of one. -/
def half : Binary64 := .ofRatio false 1 2

/-- Settings that define how many decimal places there are, and nothing else. -/
def placesOnly : Config :=
  ⟨[⟨Config.precisionKey, ⟨.text "P", .int 6, .text "", none, none⟩, .text "", false, .int 6⟩], [],
    none⟩

end RunDesk

end ScriptCatalog
