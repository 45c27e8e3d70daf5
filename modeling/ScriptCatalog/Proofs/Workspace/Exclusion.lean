import ScriptCatalog.Proofs.Workspace.Holding

/-! Holds within holds. Whatever is nested in them and wherever it fails, each script is given back
as it was found; as long as it is held nobody else can have it for themselves or destroy it, and
outside of all holds nothing fails because a script is held. -/

namespace ScriptCatalog

section

variable [Platform]

namespace Workspace

/-- What is done at a time: a script is used, or what a table has is removed, which destroys it. -/
inductive Operation where
  | use (id : ScriptId) (use : Use)
  | remove (table : Nat) (name : Datum)
  | clear (table : Nat)

def Operation.act : Operation → Act Workspace Unit
  | use id made => made.act id
  | remove table name => onTable table (Catalog.remove name)
  | clear table => onTable table Catalog.clear

/-- Operations one after the other, up to the first that fails, some while scripts are held. A
failure ends what is held as well, unless it is caught. -/
inductive Plan where
  | done
  | operate (operation : Operation)
  | hold (id : ScriptId) (inside : Plan)
  | attempt (plan : Plan)
  | next (first second : Plan)

namespace Plan

def act : Plan → Act Workspace Unit
  | done => pure ()
  | operate operation => operation.act
  | hold id inside => holding id inside.act
  | attempt plan => fun space => .ok () (Act.after plan.act space)
  | next first second => do first.act; second.act

end Plan

inductive Move where
  | take (id : ScriptId)
  | operate (operation : Operation)

def Move.act : Move → Act Workspace Unit
  | take id => onScript id Script.acquire
  | operate operation => operation.act

/-- Something that is done or tried, with the workspace as it is before that and the scripts that
are held around it. -/
structure Attempt where
  within : List ScriptId
  move : Move
  before : Workspace

/-- All that is done or tried, in order. -/
def Plan.tried : Plan → List ScriptId → Workspace → List Attempt
  | done, _, _ => []
  | operate operation, within, space => [{ within, move := .operate operation, before := space }]
  | hold id inside, within, space =>
      { within, move := .take id, before := space } ::
        match onScript id Script.acquire space with
        | .ok _ held => inside.tried (id :: within) held
        | .error _ _ => []
  | attempt plan, within, space => plan.tried within space
  | next first second, within, space =>
      first.tried within space ++
        match first.act space with
        | .ok _ between => second.tried within between
        | .error _ _ => []

variable {space : Workspace} {id : ScriptId}

/-! Taking scripts and giving them back. -/

theorem Operation.orderlyAt (courteous : space.Courteous) (operation : Operation) :
    OrderlyAt operation.act space := by
  cases operation with
  | use id made => exact made.orderlyAt courteous id
  | remove table name => exact orderlyAt_onTable (Catalog.orderly_remove name) table
  | clear table => exact orderlyAt_onTable Catalog.orderly_clear table

/-- A workspace in which one more script is held, or one less. -/
structure Switched (id : ScriptId) (isHeld : Bool) (space next : Workspace) : Prop where
  holds : next.holds = space.holds.set id isHeld
  runners : next.runners = space.runners

theorem switched_letGo (id : ScriptId) (space : Workspace) :
    Switched id false space (letGo id space) := by
  refine ⟨List.ext_getElem? fun index => ?_, rfl⟩
  simp only [holds, letGo, List.getElem?_map, List.getElem?_modify, List.getElem?_set,
    List.length_map]
  by_cases same : id = index
  · subst same
    cases there : space.scripts[id]? with
    | none =>
        have outside := List.getElem?_eq_none_iff.mp there
        simp [outside]
    | some script =>
        have inside := (List.getElem?_eq_some_iff.mp there).1
        simp [inside, Script.isHeld_letGo]
  · simp [same]

theorem take_cases (id : ScriptId) (space : Workspace) :
    (onScript id Script.acquire).Refused (space.IsHeld id) space ∨
      ∃ held, onScript id Script.acquire space = .ok () held ∧ space.holds[id]? = some false ∧
        Switched id true space held := by
  cases there : space.scripts[id]? with
  | none =>
      have absent : ¬space.IsHeld id := by
        rw [IsHeld, holds, List.getElem?_map, there]
        exact Option.some_ne_none true ∘ Eq.symm
      exact .inl ⟨.absentObject, onScript_absent _ there,
        (Fault.uncontended_of_isContention rfl).before absent⟩
  | some script =>
      cases script with
      | destroyed =>
          have free : ¬space.IsHeld id := by
            rw [IsHeld, holds, List.getElem?_map, there]
            exact Bool.false_ne_true ∘ Option.some.inj
          exact .inl (stops_onScript there
            ⟨.destroyedScript, rfl, (Fault.uncontended_of_isContention rfl).before free⟩)
      | live script =>
          have told : space.holds[id]? = some script.held := by
            rw [holds, List.getElem?_map, there]
            rfl
          cases held : script.held with
          | true =>
              refine .inl (stops_onScript there ⟨.concurrentAccess script.profile.name, ?_, ?_⟩)
              · rw [Script.acquire_live, held]
                rfl
              · exact ⟨fun _ => ⟨_, rfl⟩, fun _ => told.trans (congrArg some held)⟩
          | false =>
              have taken : Script.acquire (.live script) = .ok () (Script.holdOf script) := by
                rw [Script.acquire_live, held]
                rfl
              refine .inr ⟨{ space with scripts := space.scripts.set id (Script.holdOf script) },
                ?_, told.trans (congrArg some held), List.map_set, rfl⟩
              simp only [onScript, there, taken]

theorem after_holding_of_error {α : Type} {act : Act Workspace α} {fault : Fault}
    (failed : onScript id Script.acquire space = .error fault space) :
    Act.after (holding id act) space = space :=
  Act.after_of_error (Act.bind_of_error _ failed)

theorem after_holding_of_ok {α : Type} {act : Act Workspace α} {held : Workspace}
    (taken : onScript id Script.acquire space = .ok () held) :
    Act.after (holding id act) space = letGo id (Act.after act held) := by
  rw [Act.after, holding, Act.bind_of_ok _ taken]
  exact Act.after_ensuring act (letGo id) held

/-! Plans. -/

/-- A workspace in which the same scripts are held. -/
structure Steady (space next : Workspace) : Prop where
  holds : next.holds = space.holds
  runners : next.runners = space.runners

instance : IsPreorder Workspace Steady where
  refl _ := ⟨rfl, rfl⟩
  trans _ _ _ left right := ⟨right.holds.trans left.holds, right.runners.trans left.runners⟩

theorem Courteous.of_runners (courteous : space.Courteous) {next : Workspace}
    (same : next.runners = space.runners) : next.Courteous := by
  rw [Courteous, same]
  exact courteous

theorem Switched.back {held next : Workspace} (free : space.holds[id]? = some false)
    (taken : Switched id true space held) (steady : Steady held next) :
    Steady space (letGo id next) := by
  have given := switched_letGo id next
  refine ⟨?_, given.runners.trans (steady.runners.trans taken.runners)⟩
  rw [given.holds, steady.holds, taken.holds, List.set_set, set_of_getElem? free]

theorem Plan.steady (courteous : space.Courteous) (plan : Plan) :
    Steady space (Act.after plan.act space) := by
  induction plan generalizing space with
  | done => exact refl_of Steady space
  | operate operation =>
      have orderly := operation.orderlyAt courteous
      exact ⟨orderly.holds, orderly.runners⟩
  | hold id inside ih =>
      rcases take_cases id space with ⟨fault, failed, _⟩ | ⟨held, taken, free, switched⟩
      · rw [act, after_holding_of_error failed]
        exact refl_of Steady space
      · rw [act, after_holding_of_ok taken]
        exact switched.back free (ih (courteous.of_runners switched.runners))
  | attempt plan ih => exact ih courteous
  | next first second ihFirst ihSecond =>
      have steady := ihFirst courteous
      refine Act.moved_bind steady fun _ between ran => ?_
      rw [Act.after_of_ok ran] at steady
      exact ihSecond (courteous.of_runners steady.runners)

/-- The scripts that are held are those that are held around what is done. -/
def Tracks (within : List ScriptId) (space : Workspace) : Prop :=
  ∀ id, space.IsHeld id ↔ id ∈ within

theorem Tracks.of_steady {within : List ScriptId} {next : Workspace} (tracks : Tracks within space)
    (steady : Steady space next) : Tracks within next := by
  intro id
  rw [IsHeld, steady.holds]
  exact tracks id

theorem Tracks.take {within : List ScriptId} {held : Workspace} (tracks : Tracks within space)
    (free : space.holds[id]? = some false) (switched : Switched id true space held) :
    Tracks (id :: within) held := by
  intro other
  have inside : id < space.holds.length := (List.getElem?_eq_some_iff.mp free).1
  rw [IsHeld, switched.holds, List.mem_cons]
  by_cases same : id = other
  · subst same
    simp [inside]
  · rw [List.getElem?_set_ne same]
    have differs : other ≠ id := fun equal => same equal.symm
    simp only [differs, false_or]
    exact tracks other

/-- What holds of everything that is done or tried: exactly the scripts that are held around it are
held, and they stay so; what wants one of them for itself is refused; an operation leaves the same
scripts held; and outside of all holds nothing fails because a script is held. -/
structure Attempt.Excluded (attempt : Attempt) : Prop where
  held : ∀ id, attempt.before.IsHeld id ↔ id ∈ attempt.within
  stays : ∀ id ∈ attempt.within, (Act.after attempt.move.act attempt.before).IsHeld id
  take : ∀ id ∈ attempt.within, attempt.move = .take id →
    attempt.move.act.Refused True attempt.before
  wanted : ∀ id ∈ attempt.within, ∀ use reaches, attempt.move = .operate (.use id use) →
    Wants attempt.before id use reaches → attempt.move.act.Refused reaches attempt.before
  back : ∀ operation, attempt.move = .operate operation →
    (Act.after attempt.move.act attempt.before).holds = attempt.before.holds
  free : attempt.within = [] → ∀ fault final,
    attempt.move.act attempt.before = .error fault final → fault.Uncontended

theorem Tracks.free {within : List ScriptId} (tracks : Tracks within space) (none : within = []) :
    true ∉ space.holds := by
  intro held
  obtain ⟨id, held⟩ := List.mem_iff_getElem?.mp held
  have inside := (tracks id).mp held
  rw [none] at inside
  cases inside

theorem excluded_operate (courteous : space.Courteous) {within : List ScriptId}
    (tracks : Tracks within space) (operation : Operation) :
    Attempt.Excluded { within, move := .operate operation, before := space } := by
  have orderly := operation.orderlyAt courteous
  refine ⟨tracks, fun id inside => ?_, nofun, ?_, ?_, fun none => orderly.fails (tracks.free none)⟩
  · exact (tracks.of_steady ⟨orderly.holds, orderly.runners⟩ id).mpr inside
  · rintro id inside use reaches ⟨⟩ wants
    exact wants.refused ((tracks id).mpr inside)
  · exact fun _ _ => orderly.holds

theorem excluded_take {within : List ScriptId} (tracks : Tracks within space) (id : ScriptId) :
    Attempt.Excluded { within, move := .take id, before := space } := by
  rcases take_cases id space with refused | ⟨held, taken, free, switched⟩
  · obtain ⟨fault, failed, reached⟩ := refused
    have same : Act.after (onScript id Script.acquire) space = space := Act.after_of_error failed
    refine ⟨tracks, fun other inside => ?_, ?_, nofun, nofun, fun none cause final given => ?_⟩
    · exact (congrArg (IsHeld · other) same).mpr ((tracks other).mpr inside)
    · rintro _ inside ⟨⟩
      exact ⟨fault, failed, fun _ => reached.mp ((tracks id).mpr inside), fun _ => trivial⟩
    · have gave : Fault.Uncontended fault := fun name same =>
        tracks.free none (List.mem_of_getElem? (reached.mpr ⟨name, same⟩))
      cases failed.symm.trans given
      exact gave
  · have same : Act.after (onScript id Script.acquire) space = held := Act.after_of_ok taken
    refine ⟨tracks, fun other inside => ?_, ?_, nofun, nofun, fun _ cause final given => ?_⟩
    · refine (congrArg (IsHeld · other) same).mpr ?_
      exact (tracks.take free switched other).mpr (List.mem_cons_of_mem _ inside)
    · rintro _ inside ⟨⟩
      have held := (tracks id).mpr inside
      rw [IsHeld, free] at held
      cases held
    · cases taken.symm.trans given

theorem Plan.excluded {within : List ScriptId} (courteous : space.Courteous)
    (tracks : Tracks within space) (plan : Plan) :
    ∀ attempt ∈ plan.tried within space, attempt.Excluded := by
  induction plan generalizing space within with
  | done => nofun
  | operate operation =>
      intro attempt member
      cases List.mem_singleton.mp member
      exact excluded_operate courteous tracks operation
  | hold id inside ih =>
      refine List.forall_mem_cons.mpr ⟨excluded_take tracks id, ?_⟩
      rcases take_cases id space with ⟨fault, failed, _⟩ | ⟨held, taken, free, switched⟩
      · rw [failed]
        nofun
      · rw [taken]
        exact ih (courteous.of_runners switched.runners) (tracks.take free switched)
  | attempt plan ih => exact ih courteous tracks
  | next first second ihFirst ihSecond =>
      intro attempt member
      rcases List.mem_append.mp member with early | late
      · exact ihFirst courteous tracks attempt early
      · have steady := first.steady courteous
        cases ran : first.act space with
        | ok value between =>
            rw [ran] at late
            rw [Act.after_of_ok ran] at steady
            have afterwards := courteous.of_runners steady.runners
            exact ihSecond afterwards (tracks.of_steady steady) attempt late
        | error fault between =>
            rw [ran] at late
            cases late

/-- A script is had by one at a time. Whatever is nested in holds, and wherever it fails, the same
scripts are held afterwards as before; meanwhile exactly those are held that are held around what is
done, nobody else has them for themselves, and none of them is destroyed; and what is done outside
of all holds never fails because a script is held. -/
theorem held_scripts_excluded {within : List ScriptId} (courteous : space.Courteous)
    (tracks : Tracks within space) (plan : Plan) :
    (Act.after plan.act space).holds = space.holds ∧
      ∀ attempt ∈ plan.tried within space, attempt.Excluded :=
  ⟨(plan.steady courteous).holds, plan.excluded courteous tracks⟩

end Workspace

end

namespace Workspace

/-- A script without arguments, and a runner for it with a dialog that binds what it is passed. -/
def hosted : Workspace :=
  { Workspace.empty with
    scripts := [.ofArguments (.plain "s") []]
    histories := [{ commands := [], capacity := .int 1, capacity_pos := rfl }]
    runners := [{
      config := 0
      history := 0
      interpret := fun _ => .ok ""
      dialog := some fun _ _ => do
        [ValueChange.bindStandard (.list [.int 0])].forM ValueChange.act
        return true }] }

/-- While the script is held, it is to be destroyed, rendered and held once more; each of these is
tried. -/
def nestedPlan : Plan :=
  .hold 0 (.next (.attempt (.operate (.use 0 .destroy)))
    (.next (.attempt (.operate (.use 0 (.command (.places 6))))) (.hold 0 .done)))

theorem held_scripts_excluded_nested :
    (nestedPlan.tried [] hosted).length = 4 ∧
      (Act.after nestedPlan.act hosted).holds = [false] ∧
      ∀ attempt ∈ nestedPlan.tried [] hosted, attempt.Excluded := by
  have courteous : hosted.Courteous := by
    intro inUse member
    cases List.mem_singleton.mp member
    exact ⟨RunDesk.courteous_changes _ true, fun _ => failsOnly_ok _⟩
  have tracks : Tracks [] hosted := by
    intro id
    cases id <;> simp [IsHeld, holds, hosted, Script.ofArguments, Script.isHeld]
  exact ⟨rfl, held_scripts_excluded courteous tracks nestedPlan⟩

end Workspace

end ScriptCatalog
