import ScriptCatalog.Proofs.Catalog.Failing
import ScriptCatalog.Proofs.Catalog.Reachable
import ScriptCatalog.Proofs.Script.Holding

/-! Tables with scripts that are held. Adding scripts to a table and removing them destroys others,
but none that is held. -/

namespace ScriptCatalog

variable [Platform]

namespace Registry

theorem contains_uncontended (registry : Registry) (name : Datum) :
    FailsOnly Fault.Uncontended (registry.contains name) := by
  refine FailsOnly.bind ?_ fun _ _ => failsOnly_ok _
  exact name.expectHashable_uncontended.bind fun _ _ => failsOnly_ok _

end Registry

namespace RegistryDesk

theorem install_uncontended (procedure : Procedure) :
    (install procedure).FailsOnly Fault.Uncontended := by
  refine Act.failsOnly_get.bind fun desk => ?_
  refine (desk.registry.contains_uncontended _).act.bind fun replaced => ?_
  refine (Act.failsOnly_modify _).bind fun _ => (Act.failsOnly_modify _).bind fun _ => ?_
  exact Act.failsOnly_modify _

theorem uninstall_uncontended (name : Datum) :
    (uninstall name).FailsOnly Fault.Uncontended := by
  refine Act.failsOnly_get.bind fun desk => ?_
  refine (desk.registry.contains_uncontended name).act.bind fun known => ?_
  cases known with
  | true =>
      refine (Act.failsOnly_modify _).bind fun _ => (Act.failsOnly_modify _).bind fun _ => ?_
      exact Act.failsOnly_modify _
  | false => exact Act.failsOnly_modify _

end RegistryDesk

theorem Datum.expectOrdered_uncontended (items : List Datum) :
    FailsOnly Fault.Uncontended (expectOrdered items) := by
  induction items with
  | nil => exact failsOnly_ok _
  | cons first items ih =>
      cases items with
      | nil => exact failsOnly_ok _
      | cons second rest =>
          rw [expectOrdered]
          split
          · exact failsOnly_error nofun
          · exact ih

namespace ScriptTable

theorem find?_uncontended (table : ScriptTable) (name : Datum) :
    FailsOnly Fault.Uncontended (table.find? name) :=
  name.expectHashable_uncontended.bind fun _ _ => failsOnly_ok _

end ScriptTable

/-! Several scripts. -/

namespace Script

variable {scripts : List Script} {id : ScriptId} {script changed : Script}

theorem isHeld_mem (there : scripts[id]? = some script) :
    script.isHeld ∈ scripts.map isHeld :=
  List.mem_map_of_mem (List.mem_of_getElem? there)

theorem map_isHeld_set (there : scripts[id]? = some script)
    (same : changed.isHeld = script.isHeld) :
    (scripts.set id changed).map isHeld = scripts.map isHeld := by
  rw [List.map_set, same, ← List.map_set, set_of_getElem? there]

theorem orderly_procedure (kind : ProcedureKind) : (procedure kind).Orderly holds :=
  .of_reads (reads_procedure kind) (procedure_uncontended kind)

end Script

namespace Catalog

variable {α : Type}

def holds (catalog : Catalog) : List Bool := catalog.scripts.map Script.isHeld

theorem orderly_onScript {act : ScriptAct α} (orderly : act.Orderly Script.holds)
    (id : ScriptId) : (onScript id act).Orderly holds where
  keeps catalog := by
    cases there : catalog.scripts[id]? with
    | none => rw [Act.after_of_error (onScript_absent act there)]
    | some script =>
        have same : (Act.after act script).isHeld = script.isHeld :=
          (List.singleton_inj).mp (orderly.keeps script)
        rw [holds, after_onScript there]
        exact Script.map_isHeld_set there same
  fails catalog free fault final failed := by
    cases there : catalog.scripts[id]? with
    | none =>
        rw [onScript_absent act there] at failed
        cases failed
        exact Fault.uncontended_of_isContention rfl
    | some script =>
        have notHeld : true ∉ script.holds := fun held =>
          free (List.mem_singleton.mp held ▸ Script.isHeld_mem there)
        cases ran : act script with
        | ok value changed =>
            rw [onScript_of_ok there ran] at failed
            cases failed
        | error cause changed =>
            rw [onScript_of_error there ran] at failed
            cases failed
            exact orderly.fails script notHeld _ _ ran

theorem orderly_onRegistry {act : Act RegistryDesk α} (fails : act.FailsOnly Fault.Uncontended) :
    (onRegistry act).Orderly holds := by
  refine .of_failsOnly (fun catalog => ?_) fun catalog fault final failed => ?_
  · cases installed : catalog.registry with
    | none => simp only [Act.after, onRegistry, installed, Act.stateOf]
    | some registry =>
        cases ran : act ⟨registry, catalog.journal⟩ with
        | ok value desk => simp only [Act.after, onRegistry, installed, ran, Act.stateOf, holds]
        | error cause desk => simp only [Act.after, onRegistry, installed, ran, Act.stateOf, holds]
  · cases installed : catalog.registry with
    | none =>
        simp only [onRegistry, installed] at failed
        cases failed
        exact Fault.uncontended_of_isContention rfl
    | some registry =>
        cases ran : act ⟨registry, catalog.journal⟩ with
        | ok value desk =>
            simp only [onRegistry, installed, ran] at failed
            cases failed
        | error cause desk =>
            simp only [onRegistry, installed, ran] at failed
            cases failed
            exact fails _ _ _ ran

/-- What changes no script cannot fail over one. -/
theorem orderly_modify {change : Catalog → Catalog}
    (same : ∀ catalog, (change catalog).scripts = catalog.scripts) :
    (modify change : Act Catalog Unit).Orderly holds :=
  .of_failsOnly (fun catalog => congrArg (List.map Script.isHeld) (same catalog))
    (Act.failsOnly_modify change)

theorem orderly_setEntries (entries : List (Datum × ScriptId)) :
    (setEntries entries).Orderly holds := orderly_modify fun _ => rfl

theorem orderly_emit (event : Event) : (emit event).Orderly holds := orderly_modify fun _ => rfl

theorem orderly_getCatalog : (get : Act Catalog Catalog).Orderly holds :=
  .of_reads Act.reads_get Act.failsOnly_get

theorem orderly_expectRegistry : expectRegistry.Orderly holds :=
  .of_reads reads_expectRegistry (Act.failsOnly_get.bind fun _ => Act.failsOnly_require _ nofun)

theorem orderly_install (id : ScriptId) (kind : ProcedureKind) :
    (install id kind).Orderly holds := by
  refine orderly_expectRegistry.bind fun _ => ?_
  refine (orderly_onScript (Script.orderly_procedure kind) id).bind fun procedure => ?_
  exact (orderly_onRegistry (RegistryDesk.install_uncontended procedure)).bind fun _ =>
    Act.orderly_pure procedure

theorem orderly_uninstall (id : ScriptId) : (uninstall id).Orderly holds :=
  orderly_expectRegistry.bind fun _ => (orderly_onScript Script.orderly_name id).bind fun name =>
    orderly_onRegistry (RegistryDesk.uninstall_uncontended name)

theorem orderly_retire (name : Datum) (previous : ScriptId) :
    (retire name previous).Orderly holds := by
  refine Act.Orderly.bind (orderly_modify ?_) fun _ => (orderly_uninstall previous).bind fun _ => ?_
  · exact fun _ => rfl
  · exact orderly_onScript Script.orderly_destroy previous

theorem orderly_add (id : ScriptId) : (add id).Orderly holds := by
  refine (orderly_onScript Script.orderly_name id).bind fun name => ?_
  refine orderly_getCatalog.bind fun catalog => ?_
  refine (catalog.table.find?_uncontended name).orderly.bind fun replaced => ?_
  refine (orderly_setEntries _).bind fun _ => ?_
  have ends : Act.Orderly holds (do
      let _ ← install id catalog.table.kind
      emit (.added (heard name))) :=
    (orderly_install id _).bind fun _ => orderly_emit _
  cases replaced with
  | none => exact ends
  | some previous =>
      by_cases other : previous ≠ id
      · simp only [other, ne_eq, not_false_eq_true, if_true]
        exact (orderly_retire name previous).bind fun _ => ends
      · simp only [other, if_false]
        exact ends

theorem orderly_remove (name : Datum) : (remove name).Orderly holds := by
  refine orderly_getCatalog.bind fun catalog => ?_
  refine (catalog.table.find?_uncontended name).orderly.bind fun found => ?_
  cases found with
  | none => exact .of_reads (Act.reads_throw _) (Act.failsOnly_throw nofun)
  | some id =>
      refine (orderly_setEntries _).bind fun _ => (orderly_uninstall id).bind fun _ => ?_
      exact (orderly_onScript Script.orderly_destroy id).bind fun _ => orderly_emit _

theorem orderly_removeAll (names : List Datum) : (removeAll names).Orderly holds := by
  induction names with
  | nil => exact Act.orderly_pure ()
  | cons name names ih => exact (orderly_remove name).bind fun _ => ih

theorem orderly_clear : clear.Orderly holds := by
  refine orderly_getCatalog.bind fun catalog => FailsOnly.orderly ?_ |>.bind fun names =>
    orderly_removeAll names
  exact (Datum.expectOrdered_uncontended _).bind fun _ _ => failsOnly_ok _

end Catalog

end ScriptCatalog
