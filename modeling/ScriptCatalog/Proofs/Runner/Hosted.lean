import ScriptCatalog.Proofs.Runner.Noninteractive
import ScriptCatalog.Proofs.Script.Outline
import ScriptCatalog.Proofs.Script.Sharing

/-! What hosts make of a script. They run it, pass values in, bind references and restore defaults,
in any order and whatever of it fails. All of that changes the script argument by argument, in steps
of which each is known. -/

namespace ScriptCatalog

variable [Platform]

namespace RunDesk

variable {α : Type} {known : EnumTypes → Prop} {follows : Argument → Argument → Prop}

def ScriptChanged (follows : Argument → Argument → Prop) (before after : RunDesk) : Prop :=
  Script.Changed follows before.script after.script

theorem changed_onScript {act : ScriptAct α} {desk : RunDesk}
    (changed : Script.Changed follows desk.script (Act.after act desk.script)) :
    ScriptChanged follows desk (Act.after (onScript act) desk) := by
  rw [onScript, Act.after_on]
  exact changed

theorem moves_onScript {act : ScriptAct α} (moves : act.Moves (Script.Changed follows)) :
    (onScript act).Moves (ScriptChanged follows) :=
  fun desk => changed_onScript (moves desk.script)

variable [IsPreorder Argument follows]

instance : IsPreorder RunDesk (ScriptChanged follows) where
  refl desk := refl_of (Script.Changed follows) desk.script
  trans _ _ _ := trans_of (Script.Changed follows)

theorem moves_onRecord (act : Act HistoryDesk α) :
    (onRecord act).Moves (ScriptChanged follows) := by
  intro desk
  rw [onRecord, Act.after_on]
  exact refl_of (Script.Changed follows) desk.script

theorem changed_consult {dialog : Option ArgumentDialog} {types : EnumTypes} {bound : Nat}
    {desk : RunDesk}
    (edits : ∀ chosen ∈ dialog,
      Script.Changed follows desk.script (Act.after (chosen types bound) desk.script)) :
    ScriptChanged follows desk (Act.after (consult dialog types bound) desk) := by
  refine Act.reads_get.moved_bind fun held _ => ?_
  cases dialog with
  | none => exact (Act.reads_pure true).moves desk
  | some chosen =>
      by_cases left : bound < held.script.size
      · simp only [left, if_true]
        refine (reads_onScript Script.reads_name).moved_bind fun name _ => ?_
        refine Act.moved_bind (moves_onRecord _ desk) fun _ between told => ?_
        -- That the dialog opens is recorded, which leaves the script to it as it was.
        have same : between.script = desk.script := by
          rw [← Act.after_of_ok told, onRecord, Act.after_on]
        refine changed_onScript ?_
        rw [same]
        exact edits chosen rfl
      · simp only [left, if_false]
        exact (Act.reads_pure true).moves desk

/-- A dialog that leaves a script, bound as an invocation says, as steps of the given kind do. -/
def Edits (moved : Script → Script → Prop) (dialog : Option ArgumentDialog) (types : EnumTypes)
    (invocation : Invocation) (script : Script) : Prop :=
  ∀ chosen ∈ dialog, ∀ bound between, Script.bindStandard invocation script = .ok bound between →
    moved between (Act.after (chosen types bound) between)

variable {dialog : Option ArgumentDialog} {types : EnumTypes} {invocation : Invocation}
  {desk : RunDesk}

theorem changed_runCommand (binding : Argument.AdmitsBinding invocation follows)
    (stored : (Script.storeParams types invocation).Moves (Script.Changed follows))
    (edits : Edits (Script.Changed follows) dialog types invocation desk.script)
    (precision : Precision) (mode : RunMode) :
    ScriptChanged follows desk
      (Act.after (runCommand dialog types precision invocation mode) desk) := by
  have binds : (onScript (Script.bindStandard invocation)).Moves (ScriptChanged follows) :=
    moves_onScript (Script.moves_bindStandard binding)
  have named : (onScript Script.name).Moves (ScriptChanged follows) :=
    (reads_onScript Script.reads_name).moves
  have renders : (onScript (Script.command precision)).Moves (ScriptChanged follows) :=
    (reads_onScript (Script.reads_command precision)).moves
  have done (result : Option String) :
      Act.Moves (ScriptChanged follows) (pure result : Act RunDesk (Option String)) :=
    (Act.reads_pure result).moves
  cases mode with
  | interactive =>
      refine Act.moved_bind (binds desk) fun bound between ran => ?_
      have bindings := (onScript_eq_ok ran).1
      have consulted :
          ScriptChanged follows between (Act.after (consult dialog types bound) between) :=
        changed_consult fun chosen there => edits chosen there bound _ bindings
      refine Act.moved_bind consulted fun went next _ => ?_
      cases went with
      | true => exact renders.bind (fun command => done (some command)) next
      | false =>
          exact named.bind (fun name => (moves_onRecord _).bind fun _ => done none) next
  | noninteractive =>
      refine Act.reads_get.moves.bind (fun held => ?_) desk
      refine (Act.reads_ofExcept _).moves.bind fun found => ?_
      have passes : (onScript (Script.passedCommand types precision invocation)).Moves
          (ScriptChanged follows) :=
        (reads_onScript (Script.reads_passedCommand types precision invocation)).moves
      have runs := passes.bind fun command =>
        (moves_onScript stored).bind fun _ => done (some command)
      by_cases whole : found = held.script.size + 1
      · simp only [whole, ne_eq, not_true_eq_false, if_false]
        exact runs
      · simp only [whole, ne_eq, not_false_eq_true, if_true]
        exact named.bind fun name => Act.Moves.bind (Act.reads_throw _).moves fun _ => runs
  | withLastValues =>
      exact binds.bind (fun _ => renders.bind fun command => done (some command)) desk

theorem changed_run_of (binding : Argument.AdmitsBinding invocation follows)
    (stored : (Script.storeParams types invocation).Moves (Script.Changed follows))
    (edits : Edits (Script.Changed follows) dialog types invocation desk.script)
    (interpret : Interpreter) (config : Config) :
    ScriptChanged follows desk (Act.after (run interpret dialog types config invocation) desk) := by
  refine (Act.reads_require _ _).moved_bind fun _ _ => ?_
  refine (Act.reads_ofExcept _).moved_bind fun size _ => ?_
  refine (Act.reads_require _ _).moved_bind fun _ _ => ?_
  refine (Act.reads_ofExcept _).moved_bind fun mode _ => ?_
  refine (Act.reads_ofExcept _).moved_bind fun precision _ => ?_
  refine (reads_onScript Script.reads_name).moved_bind fun _ _ => ?_
  have rendered := changed_runCommand binding stored edits precision mode
  refine Act.moved_bind rendered fun command next _ => ?_
  cases command with
  | none => exact (Act.reads_pure none).moves next
  | some command =>
      exact (moves_onRecord _).bind (fun result => (Act.reads_pure (some result)).moves) next

theorem changed_run (updates : Argument.Updates known follows)
    (binding : Argument.AdmitsBinding invocation follows) (knows : known types)
    (edits : Edits (Script.Changed follows) dialog types invocation desk.script)
    (interpret : Interpreter) (config : Config) :
    ScriptChanged follows desk (Act.after (run interpret dialog types config invocation) desk) :=
  changed_run_of binding (Script.moves_storeParams updates knows invocation) edits interpret config

end RunDesk

namespace Script

/-- A script and what can be made of it by runs and by changes of its values, one after the other.
They look into known enumerations only, and assign nothing but what may be assigned. What a dialog
does is itself made up of such steps. -/
inductive Reaches (known : EnumTypes → Prop) (assignable : Argument → Payload → Prop) :
    Script → Script → Prop
  | refl (script : Script) : Reaches known assignable script script
  | trans {first second third : Script} : Reaches known assignable first second →
      Reaches known assignable second third → Reaches known assignable first third
  | change (script : Script) (change : ValueChange) :
      change.Allowed known assignable script →
        Reaches known assignable script (Act.after change.act script)
  | resetArgument (script : Script) (types : EnumTypes) (index : Datum) (resetIds : Bool) :
      known types → Reaches known assignable script
        (Act.after (onArgument index (Argument.reset types resetIds)) script)
  | run (interpret : Interpreter) (dialog : Option ArgumentDialog) (types : EnumTypes)
      (config : Config) (invocation : Invocation) (desk : RunDesk) : known types →
      RunDesk.Edits (Reaches known assignable) dialog types invocation desk.script →
      Reaches known assignable desk.script
        (Act.after (RunDesk.run interpret dialog types config invocation) desk).script

variable {known : EnumTypes → Prop} {assignable : Argument → Payload → Prop}
  {follows : Argument → Argument → Prop} [IsPreorder Argument follows]

/-- What holds of every single step between an argument and the one that follows it, holds between
the arguments of a script and those of any that it reaches. -/
theorem Reaches.changed (admits : Argument.Admits known follows)
    (assigned : ∀ {argument held changed}, assignable argument held →
      argument.assign (.payload held) = .ok changed → follows argument changed)
    {script after : Script} (reached : Reaches known assignable script after) :
    Changed follows script after := by
  induction reached with
  | refl script => exact refl_of (Changed follows) script
  | trans _ _ left right => exact trans_of (Changed follows) left right
  | change script change allowed => exact change.changed admits assigned allowed
  | resetArgument script types index resetIds knows =>
      exact changed_onArgument fun place _ => admits.restored resetIds place.2 knows
  | run interpret dialog types config invocation desk knows _ ih =>
      exact RunDesk.changed_run admits.toUpdates (admits.binding invocation) knows ih interpret
        config

/-- A script and what it reaches where payloads can be kept at several places, as far as they are
allowed to be when all arguments are reset, be it in a dialog. -/
inductive ReachesAmong (known : EnumTypes → Prop) (assignable : Argument → Payload → Prop)
    (allowed : Objects → Prop) : Script → Script → Prop
  | reaches {script after : Script} : Reaches known assignable script after →
      ReachesAmong known assignable allowed script after
  | trans {first second third : Script} : ReachesAmong known assignable allowed first second →
      ReachesAmong known assignable allowed second third →
        ReachesAmong known assignable allowed first third
  | reset (script : Script) (objects : Objects) (types : EnumTypes) (resetIds : Bool) :
      allowed objects → known types → ReachesAmong known assignable allowed script
        (Act.after (resetAmong objects types resetIds) script)
  | run (interpret : Interpreter) (dialog : Option ArgumentDialog) (types : EnumTypes)
      (config : Config) (invocation : Invocation) (desk : RunDesk) : known types →
      RunDesk.Edits (ReachesAmong known assignable allowed) dialog types invocation desk.script →
      ReachesAmong known assignable allowed desk.script
        (Act.after (RunDesk.run interpret dialog types config invocation) desk).script

theorem ReachesAmong.unshared {script after : Script}
    (reached : ReachesAmong known assignable Objects.Unshared script after) :
    Reaches known assignable script after := by
  induction reached with
  | reaches reached => exact reached
  | trans _ _ left right => exact left.trans right
  | reset script objects types resetIds unshared knows =>
      rw [resetAmong_of_unshared unshared]
      exact .change script (.reset types resetIds) knows
  | run interpret dialog types config invocation desk knows _ ih =>
      exact .run interpret dialog types config invocation desk knows ih

/-- What also holds when a value is released holds where values are shared, if it is with no
default. -/
theorem ReachesAmong.changed (admits : Argument.Admits known follows)
    (assigned : ∀ {argument held changed}, assignable argument held →
      argument.assign (.payload held) = .ok changed → follows argument changed)
    (released : ∀ argument : Argument,
      follows argument { argument with value := argument.value.release })
    (restored : ∀ {types} (argument : Argument) (value : Payload), known types →
      argument.default.copy types = .ok value → follows argument { argument with value })
    {script after : Script}
    (reached : ReachesAmong known assignable Objects.Apart script after) :
    Changed follows script after := by
  induction reached with
  | reaches reached => exact reached.changed admits assigned
  | trans _ _ left right => exact trans_of (Changed follows) left right
  | reset script objects types resetIds apart knows =>
      exact moves_resetAmong apart released (fun argument value => restored argument value knows)
        resetIds script
  | run interpret dialog types config invocation desk knows _ ih =>
      exact RunDesk.changed_run admits.toUpdates (admits.binding invocation) knows ih interpret
        config

end Script

end ScriptCatalog
