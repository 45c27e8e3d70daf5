import ScriptCatalog.Proofs.Catalog.Destroyed
import ScriptCatalog.Proofs.Workspace.Exclusion

/-! Destroyed scripts among others. Whatever else happens, a script stays destroyed, and whatever is
asked of it fails where it starts. -/

namespace ScriptCatalog

section

variable [Platform]

namespace Workspace

variable {α : Type} {space : Workspace} {id : ScriptId}

/-- Settings of a runner, if they are there, that have a key. -/
def Defines (space : Workspace) (runner : Nat) (key : String) : Prop :=
  ∀ inUse config, space.runners[runner]? = some inUse →
    space.configs[inUse.config]? = some config → key ∈ config.keys

/-- What cannot be done with a script that is destroyed: all but asking for its size and whether it
is destroyed. Runs have a valid mode. -/
def Use.Guarded (space : Workspace) : Use → Prop
  | property field => ∃ part, Profile.parts.lookup field = some part
  | run runner invocation =>
      (∃ mode, (do RunMode.ofDatum (← invocation.itemAt 0)) = .ok mode) ∧
        space.Defines runner Config.precisionKey
  | resetScript runner => space.Defines runner Config.resetIdsKey
  | _ => True

theorem stops_find {items : List α} {number : Nat} {fault : Fault} {after : Workspace}
    (failed : find items number space = .error fault after) : fault.IsPrecondition := by
  unfold find at failed
  cases there : items[number]? with
  | none =>
      rw [there] at failed
      cases failed
      rfl
  | some held =>
      rw [there] at failed
      cases failed

theorem stops_expect {reference : Option α} {fault : Fault} {after : Workspace}
    (failed : expect reference space = .error fault after) : fault.IsPrecondition := by
  cases reference with
  | none =>
      cases failed
      rfl
  | some held => cases failed

section

variable (gone : space.scripts[id]? = some .destroyed)
include gone

/-- What a runner does to a script that is destroyed. -/
theorem stops_onDesk {runner : Nat} {act : Workspace → RunnerInUse → Config → Act RunDesk α}
    (stops : ∀ inUse config record, space.runners[runner]? = some inUse →
      space.configs[inUse.config]? = some config →
        (act space inUse config).Stops Fault.IsPrecondition ⟨.destroyed, record⟩) :
    Act.Stops Fault.IsPrecondition (do
      let space ← get
      let inUse ← find space.runners runner
      let config ← config inUse.config
      onRun id inUse.history (act space inUse config)) space := by
  refine Act.reads_get.stops_bind nofun fun held got => ?_
  cases got
  refine (reads_find _ _).stops_bind (fun _ => stops_find) fun inUse found => ?_
  have uses := find_eq_ok found
  refine Act.Reads.stops_bind (reads_config _) (fun _ failed => stops_find failed) ?_
  intro config found
  have configured : space.configs[inUse.config]? = some config := find_eq_ok found
  cases kept : space.histories[inUse.history]? with
  | none =>
      refine ⟨.absentObject, ?_, rfl⟩
      simp only [onRun, gone, kept]
  | some history => exact stops_onRun gone kept (stops inUse config _ uses configured)

theorem Use.stops {use : Use} (guarded : use.Guarded space) :
    (use.act id).Stops Fault.IsPrecondition space := by
  have asked {α : Type} {act : ScriptAct α} (guarded : Script.Guarded act) :
      (onScript id act).Stops Fault.IsPrecondition space := stops_onScript gone guarded
  have told (part : Profile → Datum) := Script.guarded_told part
  cases use with
  | property field =>
      obtain ⟨part, said⟩ := guarded
      exact (asked (Script.guarded_property said)).bind _
  | title => exact (asked ((told _).bind _)).bind _
  | shownLabel => exact (asked ((told _).bind _)).bind _
  | arguments => exact (asked (Script.guarded_alive.bind _)).bind _
  | argument index => exact (asked ((Script.guarded_argumentAt index).bind _)).bind _
  | define index filling => exact asked (Script.guarded_alive.bind _)
  | change made => exact asked made.guarded
  | resetArgument types index resetIds => exact asked ((Script.guarded_argumentAt index).bind _)
  | command precision => exact (asked (Script.guarded_exclusively _)).bind _
  | passedCommand types precision invocation =>
      exact (asked (Script.guarded_require _ (Script.guarded_exclusively _))).bind _
  | destroy => exact asked (Script.guarded_exclusively _)
  | procedure kind => exact (asked ((told _).bind _)).bind _
  | install registry kind =>
      refine Act.Stops.bind ?_ _
      refine (reads_expect registry).stops_bind (fun _ => stops_expect) fun _ _ => ?_
      exact stops_onRegistry fun inUse => Catalog.stops_install gone kind
  | uninstall registry =>
      refine (reads_expect registry).stops_bind (fun _ => stops_expect) fun _ _ => ?_
      exact stops_onRegistry fun inUse => Catalog.stops_uninstall gone
  | add table =>
      cases there : space.tables[table]? with
      | none => exact ⟨.absentObject, onTable_absent _ there, rfl⟩
      | some inUse => exact stops_onTable there (Catalog.stops_add gone)
  | run runner invocation =>
      obtain ⟨⟨mode, valid⟩, defined⟩ := guarded
      exact (stops_onDesk gone fun inUse config record runs configured =>
        RunDesk.stops_run record inUse.interpret inUse.dialog space.types valid
          (defined inUse config runs configured)).bind _
  | resetScript runner =>
      refine stops_onDesk gone fun inUse config record runs configured => ?_
      obtain ⟨truth, given⟩ := config.getTruth_of_mem_keys _ (guarded inUse config runs configured)
      rw [RunDesk.resetScript, given]
      exact RunDesk.stops_onScript (Script.guarded_exclusively _)

end

/-! Staying destroyed. -/

theorem stays_onScript {act : ScriptAct α} (fixed : Act.after act .destroyed = .destroyed)
    (other : ScriptId) : (onScript other act).Moves (StaysDestroyed scripts id) := by
  intro space gone
  cases there : space.scripts[other]? with
  | none =>
      rw [Act.after_of_error (onScript_absent act there)]
      exact gone
  | some script =>
      rw [after_onScript there]
      exact staysDestroyed_set there (fun same => same ▸ fixed) gone

theorem stays_onRun {act : Act RunDesk α}
    (fixed : ∀ record, Act.after act ⟨.destroyed, record⟩ = ⟨.destroyed, record⟩)
    (other : ScriptId) (history : Nat) :
    (onRun other history act).Moves (StaysDestroyed scripts id) := by
  intro space gone
  cases there : space.scripts[other]? with
  | none =>
      rw [Act.after_of_error (onRun_absent act (.inl there))]
      exact gone
  | some script =>
      cases kept : space.histories[history]? with
      | none =>
          rw [Act.after_of_error (onRun_absent act (.inr kept))]
          exact gone
      | some held =>
          obtain ⟨desk, left, ended⟩ := after_onRun act there kept
          rw [ended]
          refine staysDestroyed_set there (fun same => ?_) gone
          rw [left, same, fixed]

theorem stays_onRegistry {act : Act Catalog α}
    (stays : act.Moves (StaysDestroyed Catalog.scripts id)) (registry : Option Nat) :
    (onRegistry registry act).Moves (StaysDestroyed scripts id) := by
  intro space gone
  let inUse : TableInUse := { table := { kind := .temporary, entries := [] }, registry }
  have stayed := stays (space.catalog inUse) gone
  have same : (Act.after (onRegistry registry act) space).scripts =
      (Act.after act (space.catalog inUse)).scripts := by
    simp only [Act.after, onRegistry, inUse]
    cases act (space.catalog _) <;> rfl
  rw [same]
  exact stayed

theorem stays_onTable {act : Act Catalog α}
    (stays : act.Moves (StaysDestroyed Catalog.scripts id)) (table : Nat) :
    (onTable table act).Moves (StaysDestroyed scripts id) := by
  intro space gone
  cases there : space.tables[table]? with
  | none =>
      rw [Act.after_of_error (onTable_absent act there)]
      exact gone
  | some inUse =>
      rw [Act.after_of_eq_on (onTable_eq act there)]
      exact stays (space.catalog inUse) gone

theorem stays_use (other : ScriptId) (use : Use) :
    (use.act other).Moves (StaysDestroyed scripts id) := by
  have asks {α β : Type} {act : ScriptAct α} (guarded : Script.Guarded act) (value : β) :
      Act.Moves (StaysDestroyed scripts id) (do let _ ← onScript other act; return value) :=
    (stays_onScript (Script.after_destroyed guarded) other).bind fun _ => (Act.reads_pure _).moves
  cases use with
  | property field =>
      have fixed := (Script.reads_property field).after_eq .destroyed
      exact (stays_onScript fixed other).bind fun _ => (Act.reads_pure _).moves
  | title => exact asks ((Script.guarded_told _).bind _) ()
  | shownLabel => exact asks ((Script.guarded_told _).bind _) ()
  | arguments => exact asks (Script.guarded_alive.bind _) ()
  | argument index => exact asks ((Script.guarded_argumentAt index).bind _) ()
  | define index filling =>
      exact stays_onScript (Script.after_destroyed (Script.guarded_alive.bind _)) other
  | change made => exact stays_onScript (Script.after_destroyed made.guarded) other
  | resetArgument types index resetIds =>
      exact stays_onScript (Script.after_destroyed ((Script.guarded_argumentAt index).bind _)) other
  | command precision => exact asks (Script.guarded_exclusively _) ()
  | passedCommand types precision invocation =>
      exact asks (Script.guarded_require _ (Script.guarded_exclusively _)) ()
  | destroy => exact stays_onScript (Script.after_destroyed (Script.guarded_exclusively _)) other
  | procedure kind => exact asks ((Script.guarded_told _).bind _) ()
  | install registry kind =>
      refine Act.Moves.bind ?_ fun _ => (Act.reads_pure _).moves
      refine (reads_expect registry).moves.bind fun _ => ?_
      exact stays_onRegistry (Catalog.stays_install other kind) registry
  | uninstall registry =>
      refine (reads_expect registry).moves.bind fun _ => ?_
      exact stays_onRegistry (Catalog.stays_uninstall other) registry
  | add table => exact stays_onTable (Catalog.stays_add other) table
  | run runner invocation =>
      have runs : (Workspace.run runner (some other) invocation).Moves
          (StaysDestroyed scripts id) := by
        refine (reads_expect (some other)).moves.bind fun _ => ?_
        refine Act.reads_get.moves.bind fun space => ?_
        refine (reads_find _ _).moves.bind fun inUse => (reads_config _).moves.bind fun config => ?_
        exact stays_onRun (fun record => RunDesk.after_run_destroyed record _ _ _ _ _) _ _
      exact runs.bind fun _ => (Act.reads_pure _).moves
  | resetScript runner =>
      refine Act.reads_get.moves.bind fun space => ?_
      refine (reads_find _ _).moves.bind fun inUse => (reads_config _).moves.bind fun config => ?_
      exact stays_onRun (fun record => RunDesk.after_resetScript_destroyed record _ _) other _

theorem stays_operation (operation : Operation) :
    operation.act.Moves (StaysDestroyed scripts id) := by
  cases operation with
  | use other made => exact stays_use other made
  | remove table name => exact stays_onTable (Catalog.stays_remove name) table
  | clear table => exact stays_onTable Catalog.stays_clear table

theorem stays_take (other : ScriptId) :
    (onScript other Script.acquire).Moves (StaysDestroyed scripts id) :=
  stays_onScript rfl other

theorem stays_letGo (other : ScriptId) (space : Workspace) :
    StaysDestroyed scripts id space (letGo other space) := by
  intro gone
  rw [letGo, List.getElem?_modify, gone]
  split <;> rfl

theorem stays_plan (plan : Plan) : plan.act.Moves (StaysDestroyed scripts id) := by
  induction plan with
  | done => exact (Act.reads_pure ()).moves
  | operate operation => exact stays_operation operation
  | hold other inside ih =>
      refine (stays_take other).bind fun _ space gone => ?_
      rw [Act.after_ensuring]
      exact stays_letGo other _ (ih space gone)
  | attempt plan ih => exact ih
  | next first second ihFirst ihSecond => exact ihFirst.bind fun _ => ihSecond

/-- What is done or tried with a script that is destroyed: each time it is still destroyed and has
no arguments, and all that is asked of it, and every hold, fails where it starts. -/
structure Attempt.Barred (id : ScriptId) (attempt : Attempt) : Prop where
  gone : attempt.before.scripts[id]? = some .destroyed
  size : onScript id (Script.property "n_args") attempt.before = .ok (.int 0) attempt.before
  take : attempt.move = .take id → attempt.move.act.Stops Fault.IsPrecondition attempt.before
  use : ∀ use, attempt.move = .operate (.use id use) → use.Guarded attempt.before →
    attempt.move.act.Stops Fault.IsPrecondition attempt.before

theorem barred_of_gone {attempt : Attempt} (gone : attempt.before.scripts[id]? = some .destroyed) :
    attempt.Barred id := by
  obtain ⟨within, move, before⟩ := attempt
  refine ⟨gone, ?_, ?_, ?_⟩
  · have told : Script.property "n_args" .destroyed = .ok (.int 0) .destroyed := rfl
    simp only [onScript, gone, told, set_of_getElem? gone]
  · rintro ⟨⟩
    exact stops_onScript gone (Script.guarded_alive.bind _)
  · rintro use ⟨⟩ guarded
    exact Use.stops gone guarded

theorem Plan.barred (plan : Plan) {within : List ScriptId}
    (gone : space.scripts[id]? = some .destroyed) :
    ∀ attempt ∈ plan.tried within space, attempt.Barred id := by
  induction plan generalizing space within with
  | done => nofun
  | operate operation =>
      intro attempt member
      cases List.mem_singleton.mp member
      exact barred_of_gone gone
  | hold other inside ih =>
      refine List.forall_mem_cons.mpr ⟨barred_of_gone gone, ?_⟩
      have stayed := stays_take other space gone
      cases taken : onScript other Script.acquire space with
      | ok value held =>
          rw [Act.after_of_ok taken] at stayed
          exact ih stayed
      | error fault held => nofun
  | attempt plan ih => exact ih gone
  | next first second ihFirst ihSecond =>
      intro attempt member
      rcases List.mem_append.mp member with early | late
      · exact ihFirst gone attempt early
      · have stayed := stays_plan first space gone
        cases ran : first.act space with
        | ok value between =>
            rw [ran] at late
            rw [Act.after_of_ok ran] at stayed
            exact ihSecond stayed attempt late
        | error fault between =>
            rw [ran] at late
            cases late

theorem gone_of_destroy {after : Workspace}
    (destroyed : onScript id Script.destroy space = .ok () after) :
    after.scripts[id]? = some .destroyed := by
  cases there : space.scripts[id]? with
  | none =>
      rw [onScript_absent _ there] at destroyed
      cases destroyed
  | some script =>
      rcases Script.destroy_cases script with ⟨fault, failed⟩ | ended
      · simp only [onScript, there, failed] at destroyed
        cases destroyed
      · simp only [onScript, there, ended] at destroyed
        cases destroyed
        exact List.getElem?_set_self (List.getElem?_eq_some_iff.mp there).1

/-- Once a script is destroyed it stays so, whatever is done with it and with others, and has no
arguments. Whatever is asked of it, and each hold, fails as something that must not be asked, and
leaves all there is as it was: scripts, registries, tables, histories and the journal of what was
installed, recorded and given to interpreters. -/
theorem destroyed_for_good {after : Workspace}
    (destroyed : onScript id Script.destroy space = .ok () after) (within : List ScriptId)
    (plan : Plan) :
    (Act.after plan.act after).scripts[id]? = some .destroyed ∧
      ∀ attempt ∈ plan.tried within after, attempt.Barred id :=
  have gone := gone_of_destroy destroyed
  ⟨stays_plan plan after gone, plan.barred gone⟩

end Workspace

end

namespace Workspace

/-- A script is run once it is destroyed, and rendered while it is held. -/
def latePlan : Plan :=
  .next (.attempt (.operate (.use 0 (.run 0 (.list [.int 0])))))
    (.hold 0 (.operate (.use 0 (.command (.places 6)))))

theorem destroyed_for_good_hosted :
    ∃ after, onScript 0 Script.destroy hosted = .ok () after ∧
      (latePlan.tried [] after).length = 2 ∧
      (Act.after latePlan.act after).scripts[0]? = some .destroyed ∧
      ∀ attempt ∈ latePlan.tried [] after, attempt.Barred 0 := by
  have destroyed : onScript 0 Script.destroy hosted =
      .ok () { hosted with scripts := [.destroyed] } := rfl
  exact ⟨_, destroyed, rfl, destroyed_for_good destroyed [] latePlan⟩

end Workspace

end ScriptCatalog
