import ScriptCatalog.Proofs.Script.Outline
import ScriptCatalog.Proofs.Workspace.Kept

/-! What can be done with a script in use: asking it, changing it, rendering it, exporting it, and
running it. -/

namespace ScriptCatalog

variable [Platform]

namespace Workspace

inductive Use where
  | property (field : String)
  | title
  | shownLabel
  | arguments
  | argument (index : Datum)
  | define (index : Datum) (argument : Argument)
  | change (change : ValueChange)
  | resetArgument (types : EnumTypes) (index : Datum) (resetIds : Bool)
  | command (precision : Precision)
  | passedCommand (types : EnumTypes) (precision : Precision) (invocation : Invocation)
  | destroy
  | procedure (kind : ProcedureKind)
  | install (registry : Option Nat) (kind : ProcedureKind)
  | uninstall (registry : Option Nat)
  | add (table : Nat)
  | run (runner : Nat) (invocation : Invocation)
  | resetScript (runner : Nat)

def Use.act (id : ScriptId) : Use → Act Workspace Unit
  | property field => do let _ ← onScript id (Script.property field)
  | title => do let _ ← onScript id Script.title
  | shownLabel => do let _ ← onScript id Script.shownLabel
  | arguments => do let _ ← onScript id Script.arguments
  | argument index => do let _ ← onScript id (Script.argument index)
  | define index filling => onScript id (Script.define index filling)
  | change made => onScript id made.act
  | resetArgument types index resetIds =>
      onScript id (Script.onArgument index (Argument.reset types resetIds))
  | command precision => do let _ ← onScript id (Script.command precision)
  | passedCommand types precision invocation => do
      let _ ← onScript id (Script.passedCommand types precision invocation)
  | destroy => onScript id Script.destroy
  | procedure kind => do let _ ← onScript id (Script.procedure kind)
  | install registry kind => do let _ ← Workspace.install registry (some id) kind
  | uninstall registry => uninstallScript registry (some id)
  | add table => addToTable table (some id)
  | run runner invocation => do let _ ← Workspace.run runner (some id) invocation
  | resetScript runner => Workspace.resetScript runner id

/-! Actions that fail where they start leave the whole workspace as it is. -/

variable {α : Type} {why : Fault → Prop} {space : Workspace} {id : ScriptId} {script : Script}

theorem stops_onScript {act : ScriptAct α} (there : space.scripts[id]? = some script)
    (stops : act.Stops why script) : (onScript id act).Stops why space := by
  obtain ⟨fault, failed, reason⟩ := stops
  refine ⟨fault, ?_, reason⟩
  simp only [onScript, there, failed, set_of_getElem? there]

theorem stops_onRun {act : Act RunDesk α} {number : Nat} {history : History}
    (there : space.scripts[id]? = some script) (kept : space.histories[number]? = some history)
    (stops : act.Stops why ⟨script, ⟨history, space.journal⟩⟩) :
    (onRun id number act).Stops why space := by
  obtain ⟨fault, failed, reason⟩ := stops
  refine ⟨fault, ?_, reason⟩
  simp only [onRun, there, kept, failed, set_of_getElem? there, set_of_getElem? kept]

theorem takeBack_same (inUse : TableInUse) (space : Workspace) :
    takeBack inUse (space.catalog inUse) space = space := by
  have same : putRegistry inUse.registry (inUse.registry.bind (space.registries[·]?))
      space.registries = space.registries := by
    cases inUse.registry with
    | none => rfl
    | some number =>
        cases there : space.registries[number]? with
        | none => simp only [Option.bind_some, there, putRegistry]
        | some registry =>
            simp only [Option.bind_some, there, putRegistry, set_of_getElem? there]
  simp only [takeBack, catalog, same]

theorem stops_onRegistry {act : Act Catalog α} {registry : Option Nat}
    (stops : ∀ inUse, act.Stops why (space.catalog inUse)) :
    (onRegistry registry act).Stops why space := by
  obtain ⟨fault, failed, reason⟩ :=
    stops { table := { kind := .temporary, entries := [] }, registry }
  refine ⟨fault, ?_, reason⟩
  simp only [onRegistry, failed, takeBack_same]

theorem stops_onTable {act : Act Catalog α} {table : Nat} {inUse : TableInUse}
    (there : space.tables[table]? = some inUse) (stops : act.Stops why (space.catalog inUse)) :
    (onTable table act).Stops why space := by
  obtain ⟨fault, failed, reason⟩ := stops
  refine ⟨fault, ?_, reason⟩
  simp only [onTable, there, failed, takeBack_same]
  simp only [catalog, set_of_getElem? there]

end Workspace

end ScriptCatalog
