import ScriptCatalog.Proofs.Catalog.Holding
import ScriptCatalog.Proofs.Runner.Destroyed

/-! Tables and scripts that are destroyed. A table neither takes such a script nor does anything
else with it, and whatever tables and registries do, it stays destroyed. -/

namespace ScriptCatalog

variable [Platform]

/-- What leaves a script destroyed that was destroyed before. -/
def StaysDestroyed {σ : Type} (scripts : σ → List Script) (id : ScriptId) (before after : σ) :
    Prop :=
  (scripts before)[id]? = some .destroyed → (scripts after)[id]? = some .destroyed

instance {σ : Type} (scripts : σ → List Script) (id : ScriptId) :
    IsPreorder σ (StaysDestroyed scripts id) where
  refl _ := fun gone => gone
  trans _ _ _ left right := fun gone => right (left gone)

theorem staysDestroyed_set {scripts : List Script} {id other : ScriptId} {script changed : Script}
    (there : scripts[other]? = some script) (fixed : script = .destroyed → changed = .destroyed)
    (gone : scripts[id]? = some .destroyed) :
    (scripts.set other changed)[id]? = some .destroyed := by
  by_cases same : other = id
  · subst same
    rw [there] at gone
    have inside := (List.getElem?_eq_some_iff.mp there).1
    rw [List.getElem?_set_self inside, fixed (Option.some.inj gone)]
  · rw [List.getElem?_set_ne same]
    exact gone

namespace Catalog

variable {α : Type} {why : Fault → Prop} {catalog : Catalog} {id : ScriptId} {script : Script}

theorem stops_onScript {act : ScriptAct α} (there : catalog.scripts[id]? = some script)
    (stops : act.Stops why script) : (onScript id act).Stops why catalog := by
  obtain ⟨fault, failed, reason⟩ := stops
  exact ⟨fault, onScript_of_failing there failed, reason⟩

section

variable (gone : catalog.scripts[id]? = some .destroyed)
include gone

/-- Whatever needs the registry before it asks for the script. -/
theorem stops_registered {act : ScriptAct α} (guarded : Script.Guarded act) :
    Act.Stops Fault.IsPrecondition (do expectRegistry; onScript id act) catalog := by
  refine reads_expectRegistry.stops_bind (fun fault failed => ?_) fun _ _ =>
    stops_onScript gone guarded
  cases installed : catalog.registry with
  | none =>
      rw [expectRegistry, Act.get_bind, installed] at failed
      cases failed
      rfl
  | some registry =>
      rw [expectRegistry, Act.get_bind, installed] at failed
      cases failed

theorem stops_install (kind : ProcedureKind) :
    (install id kind).Stops Fault.IsPrecondition catalog := by
  have built : Script.Guarded (Script.procedure kind) := (Script.guarded_told _).bind _
  have stops := (stops_registered gone built).bind fun procedure => do
    onRegistry (RegistryDesk.install procedure)
    return procedure
  rwa [bind_assoc] at stops

theorem stops_uninstall : (uninstall id).Stops Fault.IsPrecondition catalog := by
  have stops := (stops_registered gone (Script.guarded_told (·.name))).bind fun name =>
    onRegistry (RegistryDesk.uninstall name)
  rwa [bind_assoc] at stops

theorem stops_add : (add id).Stops Fault.IsPrecondition catalog :=
  (stops_onScript gone (Script.guarded_told _)).bind _

end

theorem stays_onScript {act : ScriptAct α} (fixed : Act.after act .destroyed = .destroyed)
    (other : ScriptId) : (onScript other act).Moves (StaysDestroyed scripts id) := by
  intro catalog gone
  cases there : catalog.scripts[other]? with
  | none =>
      rw [Act.after_of_error (onScript_absent act there)]
      exact gone
  | some script =>
      rw [after_onScript there]
      exact staysDestroyed_set there (fun same => same ▸ fixed) gone

theorem stays_of_scripts {act : Act Catalog α}
    (same : ∀ catalog, (Act.after act catalog).scripts = catalog.scripts) :
    act.Moves (StaysDestroyed scripts id) := by
  intro catalog gone
  rw [same]
  exact gone

theorem stays_onRegistry (act : Act RegistryDesk α) :
    (onRegistry act).Moves (StaysDestroyed scripts id) := by
  refine stays_of_scripts fun catalog => ?_
  cases installed : catalog.registry with
  | none => simp only [Act.after, onRegistry, installed, Act.stateOf]
  | some registry =>
      simp only [Act.after, onRegistry, installed]
      cases act ⟨registry, catalog.journal⟩ <;> rfl

theorem stays_name (other : ScriptId) :
    (onScript other Script.name).Moves (StaysDestroyed scripts id) :=
  (reads_onScript Script.reads_name).moves

theorem stays_install (other : ScriptId) (kind : ProcedureKind) :
    (install other kind).Moves (StaysDestroyed scripts id) := by
  refine reads_expectRegistry.moves.bind fun _ => ?_
  refine (reads_onScript (Script.reads_procedure kind)).moves.bind fun procedure => ?_
  exact (stays_onRegistry _).bind fun _ => (Act.reads_pure _).moves

theorem stays_uninstall (other : ScriptId) :
    (uninstall other).Moves (StaysDestroyed scripts id) :=
  reads_expectRegistry.moves.bind fun _ => (stays_name other).bind fun _ => stays_onRegistry _

theorem stays_destroy (other : ScriptId) :
    (onScript other Script.destroy).Moves (StaysDestroyed scripts id) :=
  stays_onScript (Script.after_destroyed (Script.guarded_exclusively _)) other

theorem stays_setEntries (entries : List (Datum × ScriptId)) :
    (setEntries entries).Moves (StaysDestroyed scripts id) := stays_of_scripts fun _ => rfl

theorem stays_emit (event : Event) : (emit event).Moves (StaysDestroyed scripts id) :=
  stays_of_scripts fun _ => rfl

theorem stays_add (other : ScriptId) : (add other).Moves (StaysDestroyed scripts id) := by
  refine (stays_name other).bind fun name => Act.reads_get.moves.bind fun catalog => ?_
  refine (Act.reads_ofExcept _).moves.bind fun replaced => (stays_setEntries _).bind fun _ => ?_
  have ends : Act.Moves (StaysDestroyed scripts id) (do
      let _ ← install other catalog.table.kind
      emit (.added (heard name))) :=
    (stays_install other _).bind fun _ => stays_emit _
  cases replaced with
  | none => exact ends
  | some previous =>
      have retires : (retire name previous).Moves (StaysDestroyed scripts id) := by
        refine Act.Moves.bind (stays_of_scripts ?_) fun _ => ?_
        · exact fun _ => rfl
        · exact (stays_uninstall previous).bind fun _ => stays_destroy previous
      by_cases differs : previous ≠ other
      · simp only [differs, ne_eq, not_false_eq_true, if_true]
        exact retires.bind fun _ => ends
      · simp only [differs, if_false]
        exact ends

theorem stays_remove (name : Datum) : (remove name).Moves (StaysDestroyed scripts id) := by
  refine Act.reads_get.moves.bind fun catalog => (Act.reads_ofExcept _).moves.bind fun found => ?_
  cases found with
  | none => exact (Act.reads_throw _).moves
  | some other =>
      refine (stays_setEntries _).bind fun _ => (stays_uninstall other).bind fun _ => ?_
      exact (stays_destroy other).bind fun _ => stays_emit _

theorem stays_clear : clear.Moves (StaysDestroyed scripts id) := by
  have removes (names : List Datum) : (removeAll names).Moves (StaysDestroyed scripts id) := by
    induction names with
    | nil => exact (Act.reads_pure ()).moves
    | cons name names ih => exact (stays_remove name).bind fun _ => ih
  exact Act.reads_get.moves.bind fun catalog => (Act.reads_ofExcept _).moves.bind removes

end Catalog

end ScriptCatalog
