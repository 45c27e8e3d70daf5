import ScriptCatalog.Proofs.Runner.Noninteractive
import ScriptCatalog.Proofs.Script.Holding

/-! Running scripts that are held, or that are not. A run gives the script back as it was found, as
long as the dialog does; of a script that is held it fails where it first asks for the arguments. -/

namespace ScriptCatalog

variable [Platform]

theorem Act.on_eq_error {σ τ α : Type} {part : σ → τ} {replace : τ → σ → σ} {act : Act τ α}
    {state final : σ} {fault : Fault} (failed : act.on part replace state = .error fault final) :
    ∃ next, act (part state) = .error fault next := by
  cases ran : act (part state) with
  | ok value next =>
      simp only [Act.on, ran] at failed
      cases failed
  | error cause next =>
      simp only [Act.on, ran] at failed
      cases failed
      exact ⟨next, rfl⟩

/-! What runs ask of settings and histories. -/

namespace Config

variable (config : Config)

theorem get_uncontended (key : String) : FailsOnly Fault.Uncontended (config.get key) := by
  refine FailsOnly.bind ?_ fun _ _ => failsOnly_ok _
  unfold entry
  cases config.entry? key with
  | none => exact failsOnly_error nofun
  | some entry => exact failsOnly_ok entry

theorem getTruth_uncontended (key : String) : FailsOnly Fault.Uncontended (config.getTruth key) :=
  (config.get_uncontended key).bind fun _ _ => failsOnly_ok _

theorem getPrecision_uncontended : FailsOnly Fault.Uncontended config.getPrecision :=
  (config.get_uncontended precisionKey).bind fun _ _ => failsOnly_ok _

end Config

namespace HistoryDesk

theorem trim_uncontended : trim.FailsOnly Fault.Uncontended := by
  refine Act.failsOnly_get.bind fun desk =>
    Act.FailsOnly.bind (FailsOnly.act ?_) fun _ => Act.failsOnly_modify _
  unfold History.trim
  split
  · cases desk.history.capacity.count? with
    | some room => exact failsOnly_ok _
    | none => exact failsOnly_error (Fault.uncontended_of_isContention rfl)
  · exact failsOnly_ok _

theorem execute_uncontended {interpret : Interpreter}
    (reports : ∀ command, FailsOnly Fault.Uncontended (interpret command)) (config : Config)
    (command : Datum) : (execute interpret config command).FailsOnly Fault.Uncontended := by
  have recorded : Act.FailsOnly Fault.Uncontended (add command) :=
    Act.failsOnly_get.bind fun _ => (Act.failsOnly_modify _).bind fun _ =>
      trim_uncontended.bind fun _ => Act.failsOnly_modify _
  refine (config.getTruth_uncontended _).act.bind fun logged => ?_
  refine Act.failsOnly_when (Act.failsOnly_modify _) ?_
  refine recorded.bind fun _ => (Act.failsOnly_modify _).bind fun _ => ?_
  have reported := reports command
  cases outcome : interpret command with
  | ok result => exact Act.failsOnly_pure result
  | error fault =>
      exact (Act.failsOnly_modify _).bind fun _ => Act.failsOnly_throw (reported fault outcome)

end HistoryDesk

theorem RunMode.ofDatum_uncontended (value : Datum) :
    FailsOnly Fault.Uncontended (RunMode.ofDatum value) := by
  unfold RunMode.ofDatum
  split
  · exact failsOnly_ok _
  · exact failsOnly_error nofun

namespace RunDesk

variable {α : Type}

def holds (desk : RunDesk) : List Bool := desk.script.holds

theorem orderly_onScript {act : ScriptAct α} (orderly : act.Orderly Script.holds) :
    (onScript act).Orderly holds where
  keeps desk := by
    rw [onScript, Act.after_on]
    exact orderly.keeps desk.script
  fails desk free fault final failed := by
    obtain ⟨script, failed⟩ := Act.on_eq_error failed
    exact orderly.fails desk.script free fault script failed

theorem onScript_uncontended {act : ScriptAct α} (fails : act.FailsOnly Fault.Uncontended) :
    (onScript act).FailsOnly Fault.Uncontended := by
  intro desk fault final failed
  obtain ⟨script, failed⟩ := Act.on_eq_error failed
  exact fails _ fault script failed

theorem orderly_onRecord {act : Act HistoryDesk α} (fails : act.FailsOnly Fault.Uncontended) :
    (onRecord act).Orderly holds := by
  refine .of_failsOnly (fun desk => ?_) fun desk fault final failed => ?_
  · rw [onRecord, Act.after_on]
    rfl
  · obtain ⟨record, failed⟩ := Act.on_eq_error failed
    exact fails _ fault record failed

theorem orderly_getScript : (get : Act RunDesk RunDesk).Orderly holds :=
  .of_reads Act.reads_get Act.failsOnly_get

/-- A dialog that gives the script back as it was found, and does not fail over a script that
nobody holds because it is held. -/
def Courteous (dialog : Option ArgumentDialog) : Prop :=
  ∀ chosen ∈ dialog, ∀ types bound, (chosen types bound).Orderly Script.holds

/-- A dialog that changes values one after the other, until one change fails. -/
theorem courteous_changes (changes : List ValueChange) (accepts : Bool) :
    Courteous (some fun _ _ => do changes.forM ValueChange.act; return accepts) := by
  rintro _ ⟨⟩ types bound
  refine Act.Orderly.bind ?_ fun _ => Act.orderly_pure accepts
  induction changes with
  | nil => exact Act.orderly_pure ()
  | cons change changes ih => exact change.orderly.bind fun _ => ih

variable {dialog : Option ArgumentDialog}

theorem orderly_consult (courteous : Courteous dialog) (types : EnumTypes) (bound : Nat) :
    (consult dialog types bound).Orderly holds := by
  refine orderly_getScript.bind fun desk => ?_
  cases dialog with
  | none => exact Act.orderly_pure true
  | some chosen =>
      by_cases left : bound < desk.script.size
      · simp only [left, if_true]
        refine (orderly_onScript Script.orderly_name).bind fun name => ?_
        refine (orderly_onRecord (Act.failsOnly_modify _)).bind fun _ => ?_
        exact orderly_onScript (courteous chosen rfl types bound)
      · simp only [left, if_false]
        exact Act.orderly_pure true

theorem orderly_runCommand (courteous : Courteous dialog) (types : EnumTypes)
    (precision : Precision) (invocation : Invocation) (mode : RunMode) :
    (runCommand dialog types precision invocation mode).Orderly holds := by
  have renders : Act.Orderly holds (do return some (← onScript (Script.command precision))) :=
    (orderly_onScript (Script.orderly_command precision)).bind fun _ => Act.orderly_pure _
  have binds := orderly_onScript (Script.orderly_bindStandard invocation)
  have named := orderly_onScript Script.orderly_name
  cases mode with
  | interactive =>
      refine binds.bind fun bound => (orderly_consult courteous types bound).bind fun went => ?_
      cases went with
      | true => exact renders
      | false =>
          refine named.bind fun name => ?_
          exact (orderly_onRecord (Act.failsOnly_modify _)).bind fun _ => Act.orderly_pure none
  | noninteractive =>
      refine orderly_getScript.bind fun desk => ?_
      refine invocation.size_uncontended.orderly.bind fun found => ?_
      have passes := (orderly_onScript (Script.orderly_passedCommand types precision invocation))
      have stores := orderly_onScript (Script.orderly_storeParams types invocation)
      have runs := passes.bind fun command => stores.bind fun _ =>
        Act.orderly_pure (some command)
      by_cases whole : found = desk.script.size + 1
      · simp only [whole, ne_eq, not_true_eq_false, if_false]
        exact runs
      · simp only [whole, ne_eq, not_false_eq_true, if_true]
        refine named.bind fun name => ?_
        exact .of_reads (Act.reads_throw_bind _ _) (Act.failsOnly_throw_bind nofun _)
  | withLastValues => exact binds.bind fun _ => renders

/-- What a run looks at before it asks for the arguments: its mode, the decimal places, and whether
the script has a name. -/
def opening (config : Config) (invocation : Invocation) : Act RunDesk (RunMode × Precision) := do
  Act.require (!invocation.isNull) .missingRunMode
  Act.require ((← Act.ofExcept invocation.size) != 0) .missingRunMode
  let runMode ← Act.ofExcept (do RunMode.ofDatum (← invocation.itemAt 0))
  let precision ← Act.ofExcept config.getPrecision
  let _ ← onScript Script.name
  return (runMode, precision)

/-- What a run does once it has looked at that. -/
def proceed (interpret : Interpreter) (dialog : Option ArgumentDialog) (types : EnumTypes)
    (config : Config) (invocation : Invocation) (mode : RunMode) (precision : Precision) :
    Act RunDesk (Option String) := do
  match ← runCommand dialog types precision invocation mode with
  | none => return none
  | some command =>
      return some (← onRecord (HistoryDesk.execute interpret config (.text command)))

theorem run_eq (interpret : Interpreter) (dialog : Option ArgumentDialog) (types : EnumTypes)
    (config : Config) (invocation : Invocation) :
    run interpret dialog types config invocation = opening config invocation >>= fun opened =>
      proceed interpret dialog types config invocation opened.1 opened.2 := by
  simp only [opening, bind_assoc, pure_bind]
  rfl

theorem reads_opening (config : Config) (invocation : Invocation) :
    (opening config invocation).Reads := by
  refine (Act.reads_require _ _).bind fun _ => (Act.reads_ofExcept _).bind fun _ => ?_
  refine (Act.reads_require _ _).bind fun _ => (Act.reads_ofExcept _).bind fun _ => ?_
  refine (Act.reads_ofExcept _).bind fun _ => (reads_onScript Script.reads_name).bind fun _ => ?_
  exact Act.reads_pure _

theorem opening_uncontended (config : Config) (invocation : Invocation) :
    (opening config invocation).FailsOnly Fault.Uncontended := by
  refine (Act.failsOnly_require _ nofun).bind fun _ => ?_
  refine invocation.size_uncontended.act.bind fun _ => ?_
  refine (Act.failsOnly_require _ nofun).bind fun _ => ?_
  refine (FailsOnly.act ?_).bind fun _ => ?_
  · exact (invocation.itemAt_uncontended 0).bind fun value _ => RunMode.ofDatum_uncontended value
  · refine config.getPrecision_uncontended.act.bind fun _ => ?_
    exact (onScript_uncontended (Script.told_uncontended _)).bind fun _ => Act.failsOnly_pure _

theorem orderly_run {interpret : Interpreter}
    (reports : ∀ command, FailsOnly Fault.Uncontended (interpret command))
    (courteous : Courteous dialog) (types : EnumTypes) (config : Config)
    (invocation : Invocation) :
    (run interpret dialog types config invocation).Orderly holds := by
  rw [run_eq]
  have opens : (opening config invocation).Orderly holds :=
    .of_reads (reads_opening _ _) (opening_uncontended _ _)
  refine opens.bind fun opened => ?_
  refine (orderly_runCommand courteous types opened.2 invocation opened.1).bind fun command => ?_
  cases command with
  | none => exact Act.orderly_pure none
  | some command =>
      refine Act.Orderly.bind (orderly_onRecord ?_) fun _ => Act.orderly_pure _
      exact HistoryDesk.execute_uncontended reports config _

theorem orderly_resetScript (types : EnumTypes) (config : Config) :
    (resetScript types config).Orderly holds :=
  (config.getTruth_uncontended _).orderly.bind fun resetIds =>
    orderly_onScript (Script.orderly_reset types resetIds)

/-! Scripts that are held. -/

/-- A run that gets as far as the arguments of the script. One without interaction has a value for
each of them. -/
def ReachesArguments (config : Config) (invocation : Invocation) (desk : RunDesk) : Prop :=
  ∃ mode precision, opening config invocation desk = .ok (mode, precision) desk ∧
    (mode = .noninteractive → invocation.size = .ok (desk.script.size + 1))

theorem stops_onScript {why : Fault → Prop} {act : ScriptAct α} {desk : RunDesk}
    (stops : act.Stops why desk.script) : (onScript act).Stops why desk := by
  obtain ⟨fault, failed, reason⟩ := stops
  refine ⟨fault, ?_, reason⟩
  rw [onScript, Act.on, failed]

theorem refused_onScript {reaches : Prop} {act : ScriptAct α} {desk : RunDesk}
    (refused : act.Refused reaches desk.script) : (onScript act).Refused reaches desk :=
  stops_onScript refused

theorem not_isNull_of_opening {config : Config} {invocation : Invocation} {desk after : RunDesk}
    {opened : RunMode × Precision} (ran : opening config invocation desk = .ok opened after) :
    invocation.isNull = false := by
  cases null : invocation.isNull with
  | false => rfl
  | true =>
      rw [opening, null] at ran
      cases ran

section

variable {script : LiveScript} (held : script.held = true) (record : HistoryDesk)
include held

theorem refused_runCommand (dialog : Option ArgumentDialog) (types : EnumTypes)
    (precision : Precision) {invocation : Invocation} (passed : invocation.isNull = false)
    (mode : RunMode) :
    (runCommand dialog types precision invocation mode).Refused
      (mode = .noninteractive → invocation.size = .ok (script.slots.length + 1))
      ⟨.live script, record⟩ := by
  have binds : (onScript (Script.bindStandard invocation)).Refused (invocation.isNull = false)
      ⟨.live script, record⟩ := refused_onScript (Script.refused_bindStandard held invocation)
  cases mode with
  | interactive => exact (binds.bind _).congr ⟨fun _ => passed, nofun⟩
  | withLastValues => exact (binds.bind _).congr ⟨fun _ => passed, nofun⟩
  | noninteractive =>
      refine Act.reads_get.refused_bind Act.failsOnly_get nofun fun desk same => ?_
      cases same
      refine invocation.size_uncontended.refused_bind (fun fault failed reached => ?_)
        fun found given => ?_
      · rw [reached rfl] at failed
        cases failed
      by_cases whole : found = script.slots.length + 1
      · have passes : (onScript (Script.passedCommand types precision invocation)).Refused
            (invocation.isNull = false) ⟨.live script, record⟩ :=
          refused_onScript (Script.refused_passedCommand held types precision invocation)
        have fits : found = (Script.live script).size + 1 := whole
        simp only [fits, ne_eq, not_true_eq_false, if_false]
        exact (passes.bind _).congr ⟨fun _ => passed, fun _ _ => whole ▸ given⟩
      · have unfit : found ≠ (Script.live script).size + 1 := whole
        have before : ¬invocation.size = .ok (script.slots.length + 1) := by
          intro reached
          rw [reached] at given
          exact whole (Except.ok.inj given).symm
        simp only [unfit, ne_eq, not_false_eq_true, if_true, forall_const]
        refine (reads_onScript Script.reads_name).refused_bind
          (onScript_uncontended (Script.told_uncontended _)) (fun _ _ => before) fun name _ => ?_
        exact ⟨_, rfl, fun reached => absurd reached before, nofun⟩

theorem refused_run (interpret : Interpreter) (dialog : Option ArgumentDialog) (types : EnumTypes)
    (config : Config) (invocation : Invocation) :
    (run interpret dialog types config invocation).Refused
      (ReachesArguments config invocation ⟨.live script, record⟩) ⟨.live script, record⟩ := by
  rw [run_eq]
  refine (reads_opening _ _).refused_bind (opening_uncontended _ _) ?_ fun opened opens => ?_
  · rintro fault failed ⟨mode, precision, opens, _⟩
    rw [failed] at opens
    cases opens
  have refused := refused_runCommand held record dialog types opened.2
    (not_isNull_of_opening opens) opened.1
  refine (refused.bind _).congr ⟨?_, fun whole => ⟨opened.1, opened.2, opens, whole⟩⟩
  rintro ⟨mode, precision, opensAgain, whole⟩
  rw [opens] at opensAgain
  cases opensAgain
  exact whole

theorem refused_resetScript (types : EnumTypes) (config : Config) :
    (resetScript types config).Refused (∃ truth, config.getTruth Config.resetIdsKey = .ok truth)
      ⟨.live script, record⟩ := by
  refine (config.getTruth_uncontended _).refused_bind ?_ fun truth given => ?_
  · rintro fault failed ⟨truth, given⟩
    rw [given] at failed
    cases failed
  · have resets := Script.refused_exclusively held (do
      let _ ← Script.arguments
      Script.forArguments fun _ => Argument.reset types truth)
    exact (refused_onScript resets).congr ⟨fun _ => trivial, fun _ => ⟨truth, given⟩⟩

end

end RunDesk

end ScriptCatalog
