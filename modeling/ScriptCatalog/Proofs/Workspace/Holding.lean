import ScriptCatalog.Proofs.Catalog.Holding
import ScriptCatalog.Proofs.Runner.Holding
import ScriptCatalog.Proofs.Workspace.Use

/-! Holding scripts while others use them. Whatever is done while scripts are held, and whatever of
it fails, each is given back as it was found; while it is held nobody else has it for themselves,
and it is never destroyed. -/

namespace ScriptCatalog

variable [Platform]

namespace Workspace

variable {α β : Type} {space : Workspace}

def holds (space : Workspace) : List Bool := space.scripts.map Script.isHeld

def IsHeld (space : Workspace) (id : ScriptId) : Prop := space.holds[id]? = some true

/-- What leaves the same scripts held, and the same runners, and does not fail because a script is
held as long as none is. -/
structure OrderlyAt (act : Act Workspace α) (space : Workspace) : Prop where
  holds : (Act.after act space).holds = space.holds
  runners : (Act.after act space).runners = space.runners
  fails : true ∉ space.holds →
    ∀ fault final, act space = .error fault final → fault.Uncontended

theorem OrderlyAt.of_stops {act : Act Workspace α} (stops : act.Stops Fault.Uncontended space) :
    OrderlyAt act space := by
  obtain ⟨fault, failed, other⟩ := stops
  refine ⟨by rw [Act.after_of_error failed], by rw [Act.after_of_error failed], fun _ => ?_⟩
  intro cause final given
  rw [failed] at given
  cases given
  exact other

theorem orderlyAt_pure (value : α) : OrderlyAt (pure value) space := ⟨rfl, rfl, fun _ => nofun⟩

theorem OrderlyAt.bind {act : Act Workspace α} {next : α → Act Workspace β}
    (first : OrderlyAt act space)
    (others : ∀ value between, act space = .ok value between → OrderlyAt (next value) between) :
    OrderlyAt (act >>= next) space := by
  obtain ⟨holds, runners, fails⟩ := first
  cases ran : act space with
  | ok value between =>
      rw [Act.after_of_ok ran] at holds runners
      have rest := others value between ran
      refine ⟨?_, ?_, fun free => ?_⟩
      · rw [Act.after, Act.bind_of_ok next ran]
        exact rest.holds.trans holds
      · rw [Act.after, Act.bind_of_ok next ran]
        exact rest.runners.trans runners
      · rw [Act.bind_of_ok next ran]
        exact rest.fails (holds ▸ free)
  | error fault between =>
      rw [Act.after_of_error ran] at holds runners
      have failed := Act.bind_of_error next ran
      refine ⟨by rw [Act.after_of_error failed, holds], by rw [Act.after_of_error failed, runners],
        fun free cause final given => ?_⟩
      rw [failed] at given
      cases given
      exact fails free fault between ran

/-- With no result to give back. -/
theorem OrderlyAt.done {act : Act Workspace α} (orderly : OrderlyAt act space) (value : β) :
    OrderlyAt (act >>= fun _ => pure value) space :=
  orderly.bind fun _ _ _ => orderlyAt_pure value

/-! Acting on scripts and tables. -/

/-- A result with another state. -/
def withState {σ τ : Type} (back : τ → σ) : EStateM.Result Fault τ α → EStateM.Result Fault σ α
  | .ok value next => .ok value (back next)
  | .error fault next => .error fault (back next)

theorem on_eq_withState {τ : Type} (part : Workspace → τ) (replace : τ → Workspace → Workspace)
    (act : Act τ α) (space : Workspace) :
    act.on part replace space = withState (replace · space) (act (part space)) := by
  rw [Act.on]
  cases act (part space) with
  | ok value next => rfl
  | error fault next => rfl

theorem OrderlyAt.of_part {τ : Type} {holdsPart : τ → List Bool} {act : Act τ α} {part : τ}
    {back : τ → Workspace} {whole : Act Workspace α} (orderly : act.Orderly holdsPart)
    (acts : whole space = withState back (act part))
    (free : true ∉ space.holds → true ∉ holdsPart part)
    (held : ∀ next, holdsPart next = holdsPart part → (back next).holds = space.holds)
    (runners : ∀ next, (back next).runners = space.runners) : OrderlyAt whole space := by
  have keeps := orderly.keeps part
  cases ran : act part with
  | ok value next =>
      rw [Act.after_of_ok ran] at keeps
      rw [ran, withState] at acts
      refine ⟨?_, ?_, fun _ fault final failed => ?_⟩
      · rw [Act.after_of_ok acts, held next keeps]
      · rw [Act.after_of_ok acts, runners]
      · rw [acts] at failed
        cases failed
  | error fault next =>
      rw [Act.after_of_error ran] at keeps
      rw [ran, withState] at acts
      refine ⟨?_, ?_, fun notHeld cause final failed => ?_⟩
      · rw [Act.after_of_error acts, held next keeps]
      · rw [Act.after_of_error acts, runners]
      · rw [acts] at failed
        cases failed
        exact orderly.fails part (free notHeld) _ _ ran

theorem not_mem_holds_of_free {id : ScriptId} {script : Script}
    (there : space.scripts[id]? = some script) (free : true ∉ space.holds) :
    true ∉ script.holds :=
  fun held => free (List.mem_singleton.mp held ▸ Script.isHeld_mem there)

theorem holds_set {id : ScriptId} {script changed : Script}
    (there : space.scripts[id]? = some script) (same : changed.holds = script.holds) :
    (space.scripts.set id changed).map Script.isHeld = space.holds :=
  Script.map_isHeld_set there (List.singleton_inj.mp same)

theorem orderlyAt_onScript {act : ScriptAct α} (orderly : act.Orderly Script.holds)
    (id : ScriptId) : OrderlyAt (onScript id act) space := by
  cases there : space.scripts[id]? with
  | none => exact .of_stops ⟨.absentObject, onScript_absent act there, nofun⟩
  | some script =>
      have acts : onScript id act space = withState
          (fun changed => { space with scripts := space.scripts.set id changed }) (act script) :=
        (onScript_eq act there).trans (on_eq_withState _ _ act space)
      exact .of_part orderly acts (not_mem_holds_of_free there) (fun _ => holds_set there)
        fun _ => rfl

theorem orderlyAt_onRun {act : Act RunDesk α} (orderly : act.Orderly RunDesk.holds)
    (id : ScriptId) (history : Nat) : OrderlyAt (onRun id history act) space := by
  cases there : space.scripts[id]? with
  | none => exact .of_stops ⟨.absentObject, onRun_absent act (.inl there), nofun⟩
  | some script =>
      cases kept : space.histories[history]? with
      | none => exact .of_stops ⟨.absentObject, onRun_absent act (.inr kept), nofun⟩
      | some held =>
          have acts : onRun id history act space = withState
              (fun desk => { space with
                scripts := space.scripts.set id desk.script
                histories := space.histories.set history desk.record.history
                journal := desk.record.journal }) (act ⟨script, ⟨held, space.journal⟩⟩) :=
            (onRun_eq act there kept).trans (on_eq_withState _ _ act space)
          exact .of_part orderly acts (not_mem_holds_of_free there) (fun _ => holds_set there)
            fun _ => rfl

theorem orderlyAt_onRegistry {act : Act Catalog α} (orderly : act.Orderly Catalog.holds)
    (registry : Option Nat) : OrderlyAt (onRegistry registry act) space := by
  let inUse : TableInUse := { table := { kind := .temporary, entries := [] }, registry }
  have acts : onRegistry registry act space =
      withState (fun catalog => takeBack inUse catalog space) (act (space.catalog inUse)) := by
    rw [onRegistry]
    cases act (space.catalog inUse) <;> rfl
  exact .of_part orderly acts (fun free => free) (fun _ same => same) fun _ => rfl

theorem orderlyAt_onTable {act : Act Catalog α} (orderly : act.Orderly Catalog.holds)
    (table : Nat) : OrderlyAt (onTable table act) space := by
  cases there : space.tables[table]? with
  | none => exact .of_stops ⟨.absentObject, onTable_absent act there, nofun⟩
  | some inUse =>
      have acts : onTable table act space = withState
          (fun catalog => { takeBack inUse catalog space with
            tables := space.tables.set table { inUse with table := catalog.table } })
          (act (space.catalog inUse)) :=
        (onTable_eq act there).trans (on_eq_withState _ _ act space)
      exact .of_part orderly acts (fun free => free) (fun _ same => same) fun _ => rfl

/-! Uses. -/

/-- Runners whose interpreters do not report that a script is held, and whose dialogs give scripts
back as they were found. -/
def Courteous (space : Workspace) : Prop :=
  ∀ inUse ∈ space.runners, RunDesk.Courteous inUse.dialog ∧
    ∀ command, FailsOnly Fault.Uncontended (inUse.interpret command)

theorem find_uncontended {α : Type} (items : List α) (number : Nat) :
    (find items number).FailsOnly Fault.Uncontended := by
  unfold find
  cases items[number]? with
  | none => exact Act.failsOnly_throw nofun
  | some item => exact Act.failsOnly_pure item

theorem expect_uncontended {α : Type} (reference : Option α) :
    (expect reference).FailsOnly Fault.Uncontended := by
  cases reference with
  | none => exact Act.failsOnly_throw nofun
  | some reference => exact Act.failsOnly_pure reference

theorem reads_expect {α : Type} (reference : Option α) : (expect reference).Reads := by
  cases reference with
  | none => exact Act.reads_throw _
  | some reference => exact Act.reads_pure reference

/-- An action that only reads comes before one that is orderly. -/
theorem orderlyAt_bind {act : Act Workspace α} {next : α → Act Workspace β} (reads : act.Reads)
    (fails : act.FailsOnly Fault.Uncontended)
    (ran : ∀ value, act space = .ok value space → OrderlyAt (next value) space) :
    OrderlyAt (act >>= next) space := by
  rcases reads space with ⟨value, given⟩ | ⟨fault, failed⟩
  · refine OrderlyAt.bind ?_ fun _ between ranAgain => ?_
    · exact ⟨by rw [reads.after_eq], by rw [reads.after_eq], fun _ => fails space⟩
    · cases reads.state_eq ranAgain
      exact ran _ ranAgain
  · exact .of_stops ⟨fault, Act.bind_of_error next failed, fails _ _ _ failed⟩

theorem orderlyAt_run (courteous : space.Courteous) (runner : Nat) (script : Option ScriptId)
    (invocation : Invocation) : OrderlyAt (run runner script invocation) space := by
  refine orderlyAt_bind (reads_expect script) (expect_uncontended script) fun id _ => ?_
  refine orderlyAt_bind Act.reads_get Act.failsOnly_get fun held got => ?_
  cases got
  refine orderlyAt_bind (reads_find _ _) (find_uncontended _ _) fun inUse found => ?_
  refine orderlyAt_bind (reads_config _) ?_ fun config _ => ?_
  · exact Act.failsOnly_get.bind fun _ => find_uncontended _ _
  · obtain ⟨dialog, interpret⟩ := courteous inUse (List.mem_of_getElem? (find_eq_ok found))
    exact orderlyAt_onRun (RunDesk.orderly_run interpret dialog space.types config invocation) _ _

theorem orderlyAt_resetScript (runner : Nat) (id : ScriptId) :
    OrderlyAt (resetScript runner id) space := by
  refine orderlyAt_bind Act.reads_get Act.failsOnly_get fun held got => ?_
  cases got
  refine orderlyAt_bind (reads_find _ _) (find_uncontended _ _) fun inUse _ => ?_
  refine orderlyAt_bind (reads_config _) ?_ fun config _ => ?_
  · exact Act.failsOnly_get.bind fun _ => find_uncontended _ _
  · exact orderlyAt_onRun (RunDesk.orderly_resetScript space.types config) _ _

theorem orderlyAt_install (registry : Option Nat) (script : Option ScriptId)
    (kind : ProcedureKind) : OrderlyAt (install registry script kind) space := by
  refine orderlyAt_bind (reads_expect _) (expect_uncontended _) fun _ _ => ?_
  refine orderlyAt_bind (reads_expect _) (expect_uncontended _) fun id _ => ?_
  exact orderlyAt_onRegistry (Catalog.orderly_install id kind) registry

theorem orderlyAt_uninstallScript (registry : Option Nat) (script : Option ScriptId) :
    OrderlyAt (uninstallScript registry script) space := by
  refine orderlyAt_bind (reads_expect _) (expect_uncontended _) fun _ _ => ?_
  refine orderlyAt_bind (reads_expect _) (expect_uncontended _) fun id _ => ?_
  exact orderlyAt_onRegistry (Catalog.orderly_uninstall id) registry

theorem orderlyAt_addToTable (table : Nat) (script : Option ScriptId) :
    OrderlyAt (addToTable table script) space := by
  refine orderlyAt_bind (reads_expect _) (expect_uncontended _) fun id _ => ?_
  exact orderlyAt_onTable (Catalog.orderly_add id) table

theorem Use.orderlyAt (courteous : space.Courteous) (id : ScriptId) (use : Use) :
    OrderlyAt (use.act id) space := by
  cases use with
  | property field => exact (orderlyAt_onScript (Script.orderly_property field) id).done _
  | title => exact (orderlyAt_onScript Script.orderly_title id).done _
  | shownLabel => exact (orderlyAt_onScript Script.orderly_shownLabel id).done _
  | arguments => exact (orderlyAt_onScript Script.orderly_arguments id).done _
  | argument index => exact (orderlyAt_onScript (Script.orderly_argument index) id).done _
  | define index filling => exact orderlyAt_onScript (Script.orderly_define index filling) id
  | change made => exact orderlyAt_onScript made.orderly id
  | resetArgument types index resetIds =>
      exact orderlyAt_onScript (Script.orderly_resetArgument types index resetIds) id
  | command precision => exact (orderlyAt_onScript (Script.orderly_command precision) id).done _
  | passedCommand types precision invocation =>
      exact (orderlyAt_onScript (Script.orderly_passedCommand types precision invocation) id).done _
  | destroy => exact orderlyAt_onScript Script.orderly_destroy id
  | procedure kind => exact (orderlyAt_onScript (Script.orderly_procedure kind) id).done _
  | install registry kind => exact (orderlyAt_install registry (some id) kind).done _
  | uninstall registry => exact orderlyAt_uninstallScript registry (some id)
  | add table => exact orderlyAt_addToTable table (some id)
  | run runner invocation => exact (orderlyAt_run courteous runner (some id) invocation).done _
  | resetScript runner => exact orderlyAt_resetScript runner id

/-! What is refused of scripts that are held. -/

theorem live_of_isHeld {id : ScriptId} (held : space.IsHeld id) :
    ∃ script : LiveScript, space.scripts[id]? = some (.live script) ∧ script.held = true := by
  rw [IsHeld, holds, List.getElem?_map, Option.map_eq_some_iff] at held
  obtain ⟨script, there, held⟩ := held
  cases script with
  | destroyed => cases held
  | live script => exact ⟨script, there, held⟩

/-- A runner with its settings, and the script with the history that it is run with. -/
structure RunsOn (space : Workspace) (runner : Nat) (id : ScriptId) (config : Config)
    (desk : RunDesk) : Prop where
  inUse : ∃ inUse, space.runners[runner]? = some inUse ∧
    space.configs[inUse.config]? = some config ∧
    space.histories[inUse.history]? = some desk.record.history
  script : space.scripts[id]? = some desk.script
  journal : desk.record.journal = space.journal

theorem RunsOn.of_runner {runner : Nat} {id : ScriptId} {config : Config} {desk : RunDesk}
    {inUse : RunnerInUse} (runsOn : space.RunsOn runner id config desk)
    (uses : space.runners[runner]? = some inUse) :
    space.configs[inUse.config]? = some config ∧
      space.histories[inUse.history]? = some desk.record.history := by
  obtain ⟨other, runs, found⟩ := runsOn.inUse
  cases runs.symm.trans uses
  exact found

/-- What a script is run with is determined by the workspace. -/
theorem RunsOn.unique {runner : Nat} {id : ScriptId} {config given : Config} {desk other : RunDesk}
    (runsOn : space.RunsOn runner id config desk) (also : space.RunsOn runner id given other) :
    config = given ∧ desk = other := by
  obtain ⟨inUse, uses, configured, kept⟩ := runsOn.inUse
  obtain ⟨configuredAlso, keptAlso⟩ := also.of_runner uses
  obtain ⟨script, history, journal⟩ := desk
  obtain ⟨otherScript, otherHistory, otherJournal⟩ := other
  cases configured.symm.trans configuredAlso
  cases kept.symm.trans keptAlso
  cases runsOn.script.symm.trans also.script
  cases runsOn.journal.trans also.journal.symm
  exact ⟨rfl, rfl⟩

/-- What wants a script for itself, and when it gets as far as asking for it. -/
inductive Wants (space : Workspace) (id : ScriptId) : Use → Prop → Prop
  | reset (types : EnumTypes) (resetIds : Bool) :
      Wants space id (.change (.reset types resetIds)) True
  | destroy : Wants space id .destroy True
  | command (precision : Precision) : Wants space id (.command precision) True
  | passedCommand (types : EnumTypes) (precision : Precision) (invocation : Invocation) :
      Wants space id (.passedCommand types precision invocation) (invocation.isNull = false)
  | bindStandard (invocation : Invocation) :
      Wants space id (.change (.bindStandard invocation)) (invocation.isNull = false)
  | run (runner : Nat) (invocation : Invocation) :
      Wants space id (.run runner invocation) (∃ config desk,
        space.RunsOn runner id config desk ∧ RunDesk.ReachesArguments config invocation desk)
  | resetScript (runner : Nat) :
      Wants space id (.resetScript runner) (∃ config desk,
        space.RunsOn runner id config desk ∧
          ∃ truth, config.getTruth Config.resetIdsKey = .ok truth)

theorem find_eq_error {items : List α} {number : Nat} {after : Workspace} {fault : Fault}
    (failed : find items number space = .error fault after) : items[number]? = none := by
  unfold find at failed
  cases there : items[number]? with
  | none => rfl
  | some held =>
      rw [there] at failed
      cases failed

/-- What a runner does to a script that is held, once its settings and its history are there. -/
theorem refused_onRun {runner : Nat} {id : ScriptId} {script : LiveScript}
    (there : space.scripts[id]? = some (.live script))
    {act : Workspace → RunnerInUse → Config → Act RunDesk α} {asks : Config → RunDesk → Prop}
    (refused : ∀ inUse config record, (act space inUse config).Refused
      (asks config ⟨.live script, record⟩) ⟨.live script, record⟩) :
    Act.Refused (∃ config desk, space.RunsOn runner id config desk ∧ asks config desk)
      (do
        let space ← get
        let inUse ← find space.runners runner
        let config ← config inUse.config
        onRun id inUse.history (act space inUse config)) space := by
  refine Act.reads_get.refused_bind Act.failsOnly_get nofun fun held got => ?_
  cases got
  refine (reads_find _ _).refused_bind (find_uncontended _ _) (fun fault failed => ?_)
    fun inUse found => ?_
  · rintro ⟨config, desk, ⟨⟨inUse, runs, _⟩, _, _⟩, _⟩
    cases (find_eq_error failed).symm.trans runs
  have uses := find_eq_ok found
  refine Act.Reads.refused_bind (reads_config _) ?_ (fun fault failed => ?_) fun config found => ?_
  · exact Act.failsOnly_get.bind fun _ => find_uncontended _ _
  · rintro ⟨config, desk, runsOn, _⟩
    have missing : space.configs[inUse.config]? = none := find_eq_error failed
    cases missing.symm.trans (runsOn.of_runner uses).1
  have configured : space.configs[inUse.config]? = some config := find_eq_ok found
  cases kept : space.histories[inUse.history]? with
  | none =>
      refine ⟨.absentObject, ?_, Fault.Uncontended.before nofun ?_⟩
      · exact onRun_absent _ (.inr kept)
      · rintro ⟨config, desk, runsOn, _⟩
        cases kept.symm.trans (runsOn.of_runner uses).2
  | some history =>
      have stops : (onRun id inUse.history (act space inUse config)).Refused _ space :=
        stops_onRun there kept (refused inUse config ⟨history, space.journal⟩)
      have runsOn : space.RunsOn runner id config ⟨.live script, ⟨history, space.journal⟩⟩ :=
        ⟨⟨inUse, uses, configured, kept⟩, there, rfl⟩
      refine stops.congr ⟨?_, fun asked => ⟨config, _, runsOn, asked⟩⟩
      rintro ⟨given, desk, also, asked⟩
      obtain ⟨rfl, rfl⟩ := runsOn.unique also
      exact asked

theorem Wants.refused {id : ScriptId} {use : Use} {reaches : Prop}
    (wants : Wants space id use reaches) (held : space.IsHeld id) :
    (use.act id).Refused reaches space := by
  obtain ⟨script, there, held⟩ := live_of_isHeld held
  cases wants with
  | reset types resetIds => exact stops_onScript there (Script.refused_exclusively held _)
  | destroy => exact stops_onScript there (Script.refused_exclusively held _)
  | command precision =>
      exact (stops_onScript there (Script.refused_exclusively held _)).bind _
  | passedCommand types precision invocation =>
      have refused := Script.refused_passedCommand held types precision invocation
      exact (stops_onScript there refused).bind _
  | bindStandard invocation =>
      exact stops_onScript there ((Script.refused_bindStandard held invocation).bind _)
  | run runner invocation =>
      exact (refused_onRun there fun inUse config record =>
        RunDesk.refused_run held record inUse.interpret inUse.dialog space.types config
          invocation).bind _
  | resetScript runner =>
      exact refused_onRun there fun inUse config record =>
        RunDesk.refused_resetScript held record space.types config

end Workspace

end ScriptCatalog
