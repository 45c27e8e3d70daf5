import ScriptCatalog.Proofs.Runner.Holding

/-! Scripts that are destroyed. Whatever is asked of one fails where it starts: it is found out that
the script is destroyed before anything of it is looked at. -/

namespace ScriptCatalog

variable [Platform]

/-- A fault of something that must not have been asked for. -/
def Fault.IsPrecondition (fault : Fault) : Prop := fault.kind = .precondition

namespace Script

variable {α β : Type}

/-- What cannot be asked of a script that is destroyed. -/
def Guarded (act : ScriptAct α) : Prop := act.Stops Fault.IsPrecondition destroyed

theorem Guarded.bind {act : ScriptAct α} (guarded : Guarded act) (next : α → ScriptAct β) :
    Guarded (act >>= next) := Act.Stops.bind guarded next

theorem guarded_alive : Guarded alive := ⟨.destroyedScript, rfl, rfl⟩

theorem guarded_told (part : Profile → Datum) : Guarded (told part) :=
  (guarded_alive.bind _).bind _

theorem guarded_exclusively (act : ScriptAct α) : Guarded (exclusively act) :=
  ⟨.destroyedScript, Act.bind_of_error _ acquire_destroyed, rfl⟩

theorem guarded_argumentAt (index : Datum) : Guarded (argumentAt index) := guarded_alive.bind _

theorem guarded_require (condition : Bool) {act : ScriptAct α} (guarded : Guarded act) :
    Guarded (do Act.require condition .absentObject; act) := by
  cases condition with
  | true => exact guarded
  | false => exact ⟨.absentObject, rfl, rfl⟩

theorem guarded_bindStandard (invocation : Invocation) : Guarded (bindStandard invocation) :=
  guarded_require _ ((guarded_exclusively _).bind _)

theorem guarded_property {field : String} {part : Profile → Datum}
    (said : Profile.parts.lookup field = some part) : Guarded (property field) := by
  unfold property
  split
  · cases said
  · cases said
  · rw [said]
    exact guarded_told part

end Script

theorem ValueChange.guarded (change : ValueChange) : Script.Guarded change.act := by
  cases change with
  | assign index value => exact ((Script.guarded_argumentAt index).bind _).bind _
  | setFromParam types index param => exact ((Script.guarded_argumentAt index).bind _).bind _
  | bindStandard invocation => exact (Script.guarded_bindStandard invocation).bind _
  | reset types resetIds => exact Script.guarded_exclusively _

theorem Script.after_destroyed {α : Type} {act : ScriptAct α} (guarded : Guarded act) :
    Act.after act destroyed = destroyed := by
  obtain ⟨fault, failed, _⟩ := guarded
  exact Act.after_of_error failed

/-! Runs. -/

namespace RunDesk

theorem stops_run (record : HistoryDesk) (interpret : Interpreter) (dialog : Option ArgumentDialog)
    (types : EnumTypes) {config : Config} {invocation : Invocation} {mode : RunMode}
    (valid : (do RunMode.ofDatum (← invocation.itemAt 0)) = .ok mode)
    (defined : Config.precisionKey ∈ config.keys) :
    (run interpret dialog types config invocation).Stops Fault.IsPrecondition
      ⟨.destroyed, record⟩ := by
  obtain ⟨first, found, _⟩ := (Except.bind_eq_ok _ _ _).mp valid
  obtain ⟨items, listed, _⟩ := (itemAt_eq_ok_iff _ _ _).mp found
  obtain ⟨scalar, given⟩ := config.get_of_mem_keys _ defined
  have precision : config.getPrecision = .ok (.ofScalar scalar) := by
    rw [Config.getPrecision, given]
    rfl
  have required (condition : Bool) {next : Unit → Act RunDesk (RunMode × Precision)}
      (stops : (next ()).Stops Fault.IsPrecondition ⟨.destroyed, record⟩) :
      (Act.require condition .missingRunMode >>= next).Stops Fault.IsPrecondition
        ⟨.destroyed, record⟩ := by
    cases condition with
    | true => exact stops
    | false => exact ⟨.missingRunMode, rfl, rfl⟩
  have named : (onScript Script.name).Stops Fault.IsPrecondition ⟨.destroyed, record⟩ :=
    stops_onScript (Script.guarded_told _)
  have opens : (opening config invocation).Stops Fault.IsPrecondition ⟨.destroyed, record⟩ := by
    unfold opening
    rw [(itemsByPosition_ok listed).1, valid, precision]
    exact required _ (required _ (named.bind _))
  rw [run_eq]
  exact opens.bind _

/-- No run of a script that is destroyed gets beyond its opening. -/
theorem after_run_destroyed (record : HistoryDesk) (interpret : Interpreter)
    (dialog : Option ArgumentDialog) (types : EnumTypes) (config : Config)
    (invocation : Invocation) :
    Act.after (run interpret dialog types config invocation) ⟨.destroyed, record⟩ =
      ⟨.destroyed, record⟩ := by
  have opens : (opening config invocation).Stops (fun _ => True) ⟨.destroyed, record⟩ := by
    refine (Act.reads_require _ _).stops_bind (fun _ _ => trivial) fun _ _ => ?_
    refine (Act.reads_ofExcept _).stops_bind (fun _ _ => trivial) fun _ _ => ?_
    refine (Act.reads_require _ _).stops_bind (fun _ _ => trivial) fun _ _ => ?_
    refine (Act.reads_ofExcept _).stops_bind (fun _ _ => trivial) fun _ _ => ?_
    refine (Act.reads_ofExcept _).stops_bind (fun _ _ => trivial) fun _ _ => ?_
    exact ⟨.destroyedScript, rfl, trivial⟩
  rw [run_eq]
  obtain ⟨fault, failed, _⟩ := opens.bind fun opened =>
    proceed interpret dialog types config invocation opened.1 opened.2
  exact Act.after_of_error failed

theorem after_resetScript_destroyed (record : HistoryDesk) (types : EnumTypes) (config : Config) :
    Act.after (resetScript types config) ⟨.destroyed, record⟩ = ⟨.destroyed, record⟩ := by
  rw [resetScript]
  cases config.getTruth Config.resetIdsKey with
  | error fault => rfl
  | ok truth =>
      have resets : (onScript (Script.reset types truth)).Stops Fault.IsPrecondition
          ⟨.destroyed, record⟩ := stops_onScript (Script.guarded_exclusively _)
      obtain ⟨fault, failed, _⟩ := resets
      exact Act.after_of_error failed

end RunDesk

end ScriptCatalog
