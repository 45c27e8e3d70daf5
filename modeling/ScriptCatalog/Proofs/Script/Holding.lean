import ScriptCatalog.Proofs.Argument.Faults
import ScriptCatalog.Proofs.Command.Rendering
import ScriptCatalog.Proofs.Procedure.Exported
import ScriptCatalog.Proofs.Script.Outline

/-! Holding scripts. Whatever is done to a script gives it back as it was found, held or free,
however it ends; and it fails because the script is held only if it is. -/

namespace ScriptCatalog

variable [Platform]

theorem Fault.Uncontended.before {reaches : Prop} {fault : Fault} (other : fault.Uncontended)
    (before : ¬reaches) : reaches ↔ ∃ name, fault = .concurrentAccess name :=
  ⟨fun reached => absurd reached before, fun ⟨name, same⟩ => absurd same (other name)⟩

/-! Actions on states with scripts of which some are held. -/

namespace Act

variable {σ α β : Type} {holds : σ → List Bool}

/-- An action after which the same scripts are held as before, and which does not fail because a
script is held as long as none is. -/
structure Orderly (holds : σ → List Bool) (act : Act σ α) : Prop where
  keeps : ∀ state, holds (after act state) = holds state
  fails : ∀ state, true ∉ holds state →
    ∀ fault final, act state = .error fault final → fault.Uncontended

theorem Orderly.of_failsOnly {act : Act σ α}
    (keeps : ∀ state, holds (after act state) = holds state)
    (fails : act.FailsOnly Fault.Uncontended) : Orderly holds act :=
  ⟨keeps, fun state _ => fails state⟩

theorem Orderly.of_reads {act : Act σ α} (reads : act.Reads)
    (fails : act.FailsOnly Fault.Uncontended) : Orderly holds act :=
  .of_failsOnly (fun state => by rw [reads.after_eq]) fails

theorem orderly_pure (value : α) : Orderly holds (pure value : Act σ α) :=
  .of_reads (reads_pure value) (failsOnly_pure value)

theorem Orderly.bind {act : Act σ α} {next : α → Act σ β} (first : Orderly holds act)
    (others : ∀ value, Orderly holds (next value)) : Orderly holds (act >>= next) where
  keeps state := by
    have kept := first.keeps state
    cases ran : act state with
    | ok value between =>
        rw [after_of_ok ran] at kept
        rw [after, bind_of_ok next ran, ← kept]
        exact (others value).keeps between
    | error fault between =>
        rw [after_of_error ran] at kept
        rw [after, bind_of_error next ran]
        exact kept
  fails state free fault final failed := by
    rcases (bind_eq_error _ _ _ _ _).mp failed with failed | ⟨value, between, ran, failed⟩
    · exact first.fails state free fault final failed
    · have kept := first.keeps state
      rw [after_of_ok ran] at kept
      exact (others value).fails between (kept ▸ free) fault final failed

theorem failsOnly_throw {allowed : Fault → Prop} {fault : Fault} (allows : allowed fault) :
    Act.FailsOnly allowed (throw fault : Act σ α) := by
  rintro state _ final ⟨⟩
  exact allows

theorem failsOnly_throw_bind {allowed : Fault → Prop} {fault : Fault} (allows : allowed fault)
    (next : α → Act σ β) : Act.FailsOnly allowed ((throw fault : Act σ α) >>= next) := by
  rintro state _ final ⟨⟩
  exact allows

theorem failsOnly_get {allowed : Fault → Prop} : Act.FailsOnly allowed (get : Act σ σ) := nofun

theorem failsOnly_require {allowed : Fault → Prop} {fault : Fault} (condition : Bool)
    (allows : allowed fault) : Act.FailsOnly allowed (require condition fault : Act σ Unit) := by
  cases condition with
  | true => exact failsOnly_pure ()
  | false => exact failsOnly_throw allows

/-- An action that fails and changes nothing: because a script is held if it gets as far as asking
for one, and for another reason if it does not. -/
def Refused (reaches : Prop) (act : Act σ α) (state : σ) : Prop :=
  act.Stops (fun fault => reaches ↔ ∃ name, fault = .concurrentAccess name) state

theorem Refused.of_contended {reaches : Prop} {act : Act σ α} {state : σ} {name : Datum}
    (reached : reaches) (failed : act state = .error (.concurrentAccess name) state) :
    Refused reaches act state :=
  ⟨_, failed, fun _ => ⟨name, rfl⟩, fun _ => reached⟩

theorem Refused.bind {reaches : Prop} {act : Act σ α} {state : σ}
    (refused : Refused reaches act state) (next : α → Act σ β) :
    Refused reaches (act >>= next) state :=
  Stops.bind refused next

theorem Refused.congr {reaches reaching : Prop} {act : Act σ α} {state : σ}
    (refused : Refused reaches act state) (same : reaching ↔ reaches) :
    Refused reaching act state := by
  obtain ⟨fault, failed, reached⟩ := refused
  exact ⟨fault, failed, same.trans reached⟩

/-- An action that only reads comes before what is refused. -/
theorem Reads.refused_bind {reaches : Prop} {act : Act σ α} {next : α → Act σ β} {state : σ}
    (reads : act.Reads) (fails : act.FailsOnly Fault.Uncontended)
    (before : ∀ fault, act state = .error fault state → ¬reaches)
    (ran : ∀ value, act state = .ok value state → Refused reaches (next value) state) :
    Refused reaches (act >>= next) state :=
  reads.stops_bind (fun fault failed => (fails _ _ _ failed).before (before fault failed)) ran

/-- What is refused for something that must have been passed in. -/
theorem refused_of_passed {passed : Datum} {act : Act σ α} {state : σ}
    (refused : Refused True act state) :
    Refused (passed.isNull = false) (do require (!passed.isNull) .absentObject; act) state := by
  obtain ⟨fault, failed, reached⟩ := refused
  cases null : passed.isNull with
  | true =>
      refine ⟨.absentObject, rfl, nofun, ?_⟩
      rintro ⟨_, ⟨⟩⟩
  | false => exact ⟨fault, failed, fun _ => reached.mp trivial, fun _ => rfl⟩

end Act

theorem FailsOnly.act {σ α : Type} {allowed : Fault → Prop} {outcome : Except Fault α}
    (fails : FailsOnly allowed outcome) :
    Act.FailsOnly allowed (Act.ofExcept outcome : Act σ α) := by
  intro state fault final failed
  cases outcome with
  | ok value => cases failed
  | error cause =>
      cases failed
      exact fails _ rfl

theorem FailsOnly.orderly {σ α : Type} {holds : σ → List Bool} {outcome : Except Fault α}
    (fails : FailsOnly Fault.Uncontended outcome) :
    Act.Orderly holds (Act.ofExcept outcome : Act σ α) :=
  .of_reads (Act.reads_ofExcept outcome) fails.act

theorem FailsOnly.refused_bind {σ α β : Type} {reaches : Prop} {outcome : Except Fault α}
    {next : α → Act σ β} {state : σ} (fails : FailsOnly Fault.Uncontended outcome)
    (before : ∀ fault, outcome = .error fault → ¬reaches)
    (ran : ∀ value, outcome = .ok value → Act.Refused reaches (next value) state) :
    Act.Refused reaches (Act.ofExcept outcome >>= next) state := by
  cases made : outcome with
  | ok value => exact ran value made
  | error fault => exact ⟨fault, rfl, (fails fault made).before (before fault made)⟩

namespace Script

variable {α : Type}

/-! What is told of a script. -/

theorem alive_uncontended : alive.FailsOnly Fault.Uncontended := by
  intro script fault final failed
  cases script with
  | destroyed =>
      cases failed
      nofun
  | live script => cases failed

theorem told_uncontended (part : Profile → Datum) : (told part).FailsOnly Fault.Uncontended := by
  refine (alive_uncontended.bind fun _ => Act.failsOnly_pure _).bind fun _ => ?_
  exact (Act.failsOnly_require _ nofun).bind fun _ => Act.failsOnly_pure _

theorem described_uncontended : described.FailsOnly Fault.Uncontended := by
  refine (alive_uncontended.bind fun _ => Act.failsOnly_pure _).bind fun _ => ?_
  exact (Act.failsOnly_require _ nofun).bind fun _ => Act.failsOnly_pure _

theorem title_uncontended : title.FailsOnly Fault.Uncontended :=
  (told_uncontended _).bind fun label => (Label.title_uncontended label).act

theorem shownLabel_uncontended : shownLabel.FailsOnly Fault.Uncontended :=
  (told_uncontended _).bind fun label => (Label.shown_uncontended label).act

theorem arguments_uncontended : arguments.FailsOnly Fault.Uncontended := by
  refine alive_uncontended.bind fun script => ?_
  cases firstUndefined script.slots with
  | none => exact Act.failsOnly_pure _
  | some index => exact Act.failsOnly_throw nofun

theorem procedure_uncontended (kind : ProcedureKind) :
    (procedure kind).FailsOnly Fault.Uncontended := by
  refine (told_uncontended _).bind fun _ => (told_uncontended _).bind fun _ => ?_
  refine shownLabel_uncontended.bind fun label => described_uncontended.bind fun profile => ?_
  exact arguments_uncontended.bind fun _ => Act.failsOnly_pure _

theorem argumentAt_uncontended (index : Datum) :
    (argumentAt index).FailsOnly Fault.Uncontended := by
  refine alive_uncontended.bind fun script => index.place_uncontended.act.bind fun place => ?_
  by_cases far : place < -indexLimit ∨ indexLimit ≤ place
  · simp only [far, if_true]
    exact Act.failsOnly_throw_bind nofun _
  · simp only [far, if_false]
    cases position? script.slots.length place with
    | none => exact Act.failsOnly_throw nofun
    | some position =>
        rcases slot : script.slots[position]? with _ | _ | argument <;> simp only [slot]
        · exact Act.failsOnly_throw nofun
        · exact Act.failsOnly_throw nofun
        · exact Act.failsOnly_pure _

/-! Changes of arguments. -/

theorem onArgument_uncontended {act : Act Argument α} (fails : act.FailsOnly Fault.Uncontended)
    (index : Datum) : (onArgument index act).FailsOnly Fault.Uncontended := by
  refine (argumentAt_uncontended index).bind fun place => ?_
  intro script fault final failed
  cases ran : act place.2 with
  | ok value changed =>
      simp only [ran] at failed
      cases failed
  | error cause changed =>
      simp only [ran] at failed
      cases failed
      exact fails _ _ _ ran

theorem replaceArgument_uncontended {change : Argument → Except Fault Argument}
    (fails : ∀ argument, FailsOnly Fault.Uncontended (change argument)) (index : Datum) :
    (replaceArgument index change).FailsOnly Fault.Uncontended := by
  refine onArgument_uncontended ?_ index
  refine Act.failsOnly_get.bind fun argument => (fails argument).act.bind fun changed => ?_
  exact Act.FailsOnly.bind nofun fun _ => Act.failsOnly_pure _

theorem eachArgument_uncontended {act : Nat → Act Argument Unit}
    (fails : ∀ index, (act index).FailsOnly Fault.Uncontended) (index : Nat)
    (slots : List (Option Argument)) :
    FailsOnly Fault.Uncontended (eachArgument act index slots).1 := by
  induction slots generalizing index with
  | nil => exact failsOnly_ok _
  | cons slot slots ih =>
      cases slot with
      | none => exact ih (index + 1)
      | some argument =>
          cases ran : act index argument with
          | ok value changed =>
              simp only [eachArgument, ran]
              exact ih (index + 1)
          | error fault changed =>
              simp only [eachArgument, ran]
              exact failsOnly_error (fails index _ _ _ ran)

theorem forArguments_uncontended {act : Nat → Act Argument Unit}
    (fails : ∀ index, (act index).FailsOnly Fault.Uncontended) :
    (forArguments act).FailsOnly Fault.Uncontended := by
  refine Act.failsOnly_get.bind fun script => ?_
  have each := eachArgument_uncontended fails 0 script.slots
  exact Act.FailsOnly.bind (Act.failsOnly_modify _) fun _ => each.act

theorem bindArgument_uncontended (invocation : Invocation) (kind : ArgKind) (index : Nat) :
    (bindArgument invocation kind index).FailsOnly Fault.Uncontended := by
  refine Act.failsOnly_get.bind fun script => ?_
  by_cases beyond : script.size ≤ index
  · simp only [beyond, if_true]
    exact Act.failsOnly_pure _
  simp only [beyond, if_false]
  refine invocation.size_uncontended.act.bind fun size => ?_
  by_cases few : size ≤ index + 1
  · simp only [few, if_true]
    exact Act.failsOnly_pure _
  simp only [few, if_false]
  refine (argumentAt_uncontended _).bind fun place => ?_
  by_cases kinds : place.2.kind = kind
  · simp only [kinds, ne_eq, not_true_eq_false, if_false]
    refine (invocation.itemAt_uncontended _).act.bind fun param => ?_
    cases boundId? kind param with
    | none => exact Act.failsOnly_pure _
    | some id =>
        refine (Argument.assign_uncontended _ _).act.bind fun changed => ?_
        exact (Act.failsOnly_modify _).bind fun _ => Act.failsOnly_pure _
  · simp only [kinds, ne_eq, not_false_eq_true, if_true]
    exact Act.failsOnly_pure _

theorem bindFirst_uncontended (invocation : Invocation) (index : Nat) (kinds : List ArgKind) :
    (bindFirst invocation index kinds).FailsOnly Fault.Uncontended := by
  induction kinds with
  | nil => exact Act.failsOnly_pure _
  | cons kind kinds ih =>
      refine (bindArgument_uncontended invocation kind index).bind fun bound => ?_
      cases bound with
      | true => exact Act.failsOnly_pure _
      | false => exact ih

/-! Rendering. -/

theorem storedTokens_uncontended (precision : Precision) (arguments : List Argument) :
    FailsOnly Fault.Uncontended (storedTokens precision arguments) :=
  failsOnly_mapM (fun argument => argument.value.token_uncontended precision) arguments

theorem passedTokens_uncontended (types : EnumTypes) (precision : Precision)
    (arguments : List Argument) (params : List Datum) :
    FailsOnly Fault.Uncontended (passedTokens types precision arguments params) := by
  induction arguments generalizing params with
  | nil => exact failsOnly_ok _
  | cons argument arguments ih =>
      cases params with
      | nil => exact failsOnly_ok _
      | cons param params =>
          refine (argument.value.paramToken_uncontended types precision param).bind fun _ _ => ?_
          exact (ih params).bind fun _ _ => failsOnly_ok _

theorem params_uncontended (arguments : List Argument) (invocation : Invocation) :
    FailsOnly Fault.Uncontended (Invocation.params arguments invocation) := by
  unfold Invocation.params
  split
  · exact failsOnly_ok _
  · exact (invocation.itemsByPosition_uncontended 1).bind fun _ _ => failsOnly_ok _

theorem formatCommand_uncontended (name : Datum) (tokens : List Datum) :
    FailsOnly Fault.Uncontended (formatCommand name tokens) :=
  (Datum.expectTexts_uncontended 0 _).bind fun _ _ => failsOnly_ok _

/-! Holding. -/

def holds (script : Script) : List Bool := [script.isHeld]

theorem free_iff (script : Script) : true ∉ script.holds ↔ script.isHeld = false := by
  rw [holds, List.mem_singleton, eq_comm, Bool.not_eq_true]

theorem isHeld_of_outline {script after : Script} (same : after.outline = script.outline) :
    after.isHeld = script.isHeld := by
  cases script with
  | destroyed => rw [eq_destroyed_of_outline same]
  | live script =>
      cases after with
      | destroyed => cases same
      | live after =>
          simp only [outline, Option.some.injEq, Prod.mk.injEq] at same
          exact same.2.1

theorem KeepsOutline.orderly {act : ScriptAct α} (keeps : KeepsOutline act)
    (fails : act.FailsOnly Fault.Uncontended) : act.Orderly holds :=
  .of_failsOnly
    (fun script => congrArg (fun held => [held]) (isHeld_of_outline (keeps script))) fails

theorem isHeld_letGo (script : Script) : script.letGo.isHeld = false := by
  cases script <;> rfl

/-- What has a script for itself gives it back, be it that it fails in the middle. -/
theorem orderly_exclusively {act : ScriptAct α} (inside : act.FailsOnly Fault.Uncontended) :
    (exclusively act).Orderly holds where
  keeps script := by
    rcases exclusively_cases act script with ⟨fault, failed⟩ | ⟨free, rfl, notHeld⟩
    · rw [Act.after_of_error failed]
    · rw [Act.after, exclusively_free act free notHeld]
      cases ran : act (holdOf free) with
      | ok value next =>
          rw [ensuring_of_ok act ran, Act.stateOf, holds, holds, isHeld_letGo]
          exact congrArg (fun held => [held]) notHeld.symm
      | error fault next =>
          rw [ensuring_of_error act ran, Act.stateOf, holds, holds, isHeld_letGo]
          exact congrArg (fun held => [held]) notHeld.symm
  fails script free fault final failed := by
    rw [free_iff] at free
    cases script with
    | destroyed =>
        rw [exclusively, Act.bind_of_error _ acquire_destroyed] at failed
        cases failed
        exact Fault.uncontended_of_isContention rfl
    | live script =>
        rw [exclusively_free act script free] at failed
        cases ran : act (holdOf script) with
        | ok value next =>
            rw [ensuring_of_ok act ran] at failed
            cases failed
        | error cause next =>
            rw [ensuring_of_error act ran] at failed
            cases failed
            exact inside _ _ _ ran

/-! Single operations. -/

theorem orderly_told (part : Profile → Datum) : (told part).Orderly holds :=
  .of_reads (reads_told part) (told_uncontended part)

theorem orderly_name : name.Orderly holds := orderly_told _

theorem reads_property (field : String) : (property field).Reads := by
  unfold property
  split
  · exact Act.reads_get.bind fun _ => Act.reads_pure _
  · exact Act.reads_get.bind fun _ => Act.reads_pure _
  · split
    · exact reads_told _
    · exact Act.reads_throw _

theorem orderly_property (field : String) : (property field).Orderly holds := by
  refine .of_reads (reads_property field) ?_
  unfold property
  split
  · exact Act.failsOnly_get.bind fun _ => Act.failsOnly_pure _
  · exact Act.failsOnly_get.bind fun _ => Act.failsOnly_pure _
  · split
    · exact told_uncontended _
    · exact Act.failsOnly_throw nofun

theorem orderly_title : title.Orderly holds :=
  (orderly_told _).bind fun label => (Label.title_uncontended label).orderly

theorem orderly_shownLabel : shownLabel.Orderly holds :=
  (orderly_told _).bind fun label => (Label.shown_uncontended label).orderly

theorem orderly_arguments : arguments.Orderly holds :=
  .of_reads reads_arguments arguments_uncontended

theorem orderly_argument (index : Datum) : (argument index).Orderly holds := by
  refine .of_reads ((reads_argumentAt index).bind fun _ => Act.reads_pure _) ?_
  exact (argumentAt_uncontended index).bind fun _ => Act.failsOnly_pure _

theorem orderly_resetArgument (types : EnumTypes) (index : Datum) (resetIds : Bool) :
    (onArgument index (Argument.reset types resetIds)).Orderly holds := by
  have keeps : KeepsOutline (onArgument index (Argument.reset types resetIds)) := fun script =>
    outline_eq_of_changed <| changed_onArgument fun place _ =>
      Argument.admits_alike.restored resetIds place.2 trivial
  exact keeps.orderly (onArgument_uncontended (Argument.reset_uncontended types resetIds) index)

theorem orderly_command (precision : Precision) : (command precision).Orderly holds := by
  refine orderly_exclusively <| arguments_uncontended.bind fun arguments => ?_
  refine (storedTokens_uncontended precision arguments).act.bind fun tokens => ?_
  exact (told_uncontended _).bind fun name => (formatCommand_uncontended name tokens).act

theorem orderly_passedCommand (types : EnumTypes) (precision : Precision)
    (invocation : Invocation) : (passedCommand types precision invocation).Orderly holds := by
  have required : Act.Orderly holds (Act.require (!invocation.isNull) .absentObject) :=
    .of_reads (Act.reads_require _ _) (Act.failsOnly_require _ nofun)
  refine required.bind fun _ => ?_
  refine orderly_exclusively <| arguments_uncontended.bind fun arguments => ?_
  refine invocation.size_uncontended.act.bind fun size => ?_
  have rest : Act.FailsOnly Fault.Uncontended (do
      let params ← Act.ofExcept (Invocation.params arguments invocation)
      let tokens ← Act.ofExcept (passedTokens types precision arguments params)
      Act.ofExcept (formatCommand (← name) tokens) : ScriptAct String) := by
    refine (params_uncontended arguments invocation).act.bind fun params => ?_
    refine (passedTokens_uncontended types precision arguments params).act.bind fun tokens => ?_
    exact (told_uncontended _).bind fun name => (formatCommand_uncontended name tokens).act
  by_cases few : size < arguments.length + 1
  · simp only [few, if_true]
    refine (told_uncontended _).bind fun name => ?_
    exact (Act.failsOnly_throw nofun).bind fun _ => rest
  · simp only [few, if_false]
    exact rest

theorem orderly_storeParams (types : EnumTypes) (invocation : Invocation) :
    (storeParams types invocation).Orderly holds := by
  refine orderly_exclusively <| arguments_uncontended.bind fun _ => ?_
  refine forArguments_uncontended fun index => ?_
  refine (invocation.itemAt_uncontended _).act.bind fun param => ?_
  refine Act.failsOnly_get.bind fun held => ?_
  exact (held.setFromParam_uncontended types param).act.bind fun _ => nofun

theorem orderly_bindStandard (invocation : Invocation) :
    (bindStandard invocation).Orderly holds := by
  have required : Act.Orderly holds (Act.require (!invocation.isNull) .absentObject) :=
    .of_reads (Act.reads_require _ _) (Act.failsOnly_require _ nofun)
  refine required.bind fun _ => Act.Orderly.bind (orderly_exclusively ?_) fun bound => ?_
  · refine (bindArgument_uncontended _ _ _).bind fun display => ?_
    refine (bindArgument_uncontended _ _ _).bind fun image => ?_
    cases image with
    | true =>
        refine (bindFirst_uncontended _ _ _).bind fun item => ?_
        cases item with
        | true => exact Act.failsOnly_pure _
        | false => exact Act.failsOnly_pure _
    | false => exact Act.failsOnly_pure _
  · exact orderly_name.bind fun _ => Act.orderly_pure bound

theorem orderly_reset (types : EnumTypes) (resetIds : Bool) :
    (reset types resetIds).Orderly holds :=
  orderly_exclusively <| arguments_uncontended.bind fun _ =>
    forArguments_uncontended fun _ => Argument.reset_uncontended types resetIds

theorem orderly_destroy : destroy.Orderly holds := orderly_exclusively nofun

theorem orderly_putArgument (position : Nat) (argument : Argument) :
    (putArgument position argument).Orderly holds := by
  refine .of_failsOnly (fun script => ?_) (Act.failsOnly_modify _)
  cases script <;> rfl

theorem orderly_define (index : Datum) (argument : Argument) :
    (define index argument).Orderly holds := by
  have there : alive.Orderly holds := .of_reads reads_alive alive_uncontended
  refine there.bind fun script => (index.isBelow_uncontended _).orderly.bind fun below => ?_
  cases below with
  | true =>
      simp only [if_true]
      exact index.place_uncontended.orderly.bind fun place => orderly_putArgument _ _
  | false => exact .of_reads (Act.reads_throw _) (Act.failsOnly_throw nofun)

/-! What is refused of a script that is held. -/

section

variable {script : LiveScript} (held : script.held = true)
include held

theorem exclusively_held (act : ScriptAct α) :
    exclusively act (live script) =
      .error (.concurrentAccess script.profile.name) (live script) := by
  have refused : acquire (live script) =
      .error (.concurrentAccess script.profile.name) (live script) := by
    rw [acquire_live, held]
    rfl
  exact Act.bind_of_error _ refused

theorem refused_exclusively (act : ScriptAct α) :
    (exclusively act).Refused True (live script) :=
  .of_contended trivial (exclusively_held held act)

theorem refused_passedCommand (types : EnumTypes) (precision : Precision)
    (invocation : Invocation) :
    (passedCommand types precision invocation).Refused (invocation.isNull = false)
      (live script) :=
  Act.refused_of_passed (refused_exclusively held _)

theorem refused_bindStandard (invocation : Invocation) :
    (bindStandard invocation).Refused (invocation.isNull = false) (live script) :=
  Act.refused_of_passed ((refused_exclusively held _).bind _)

end

end Script

theorem ValueChange.orderly (change : ValueChange) : change.act.Orderly Script.holds := by
  cases change with
  | assign index value =>
      refine (keepsOutline (.assign index value)).orderly ?_
      refine Act.FailsOnly.bind ?_ fun _ => Act.failsOnly_pure ()
      exact Script.replaceArgument_uncontended (Argument.assign_uncontended value) index
  | setFromParam types index param =>
      refine (keepsOutline (.setFromParam types index param)).orderly ?_
      refine Act.FailsOnly.bind ?_ fun _ => Act.failsOnly_pure ()
      exact Script.replaceArgument_uncontended (Argument.setFromParam_uncontended types param) index
  | bindStandard invocation =>
      exact (Script.orderly_bindStandard invocation).bind fun _ => Act.orderly_pure ()
  | reset types resetIds => exact Script.orderly_reset types resetIds

end ScriptCatalog
