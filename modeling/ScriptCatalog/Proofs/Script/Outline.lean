import ScriptCatalog.Proofs.Script.Changed

/-! What changes of values leave alone. Whatever is done to the values of a script, its profile and
the types and labels of its arguments stay as they are. -/

namespace ScriptCatalog

variable [Platform]

namespace Argument

/-- What is not a value. -/
def outline (argument : Argument) : ArgKind × Datum := (argument.kind, argument.label)

theorem payload_of_assign {argument changed : Argument} {value : Datum}
    (given : argument.assign value = .ok changed) : ∃ held, value = .payload held := by
  obtain ⟨_, expected, _⟩ := (Except.bind_eq_ok _ _ _).mp given
  cases value with
  | payload held => exact ⟨held, rfl⟩
  | _ => cases expected

theorem outline_assign {argument changed : Argument} {value : Datum}
    (done : argument.assign value = .ok changed) : changed.outline = argument.outline := by
  obtain ⟨held, _, same⟩ := (Except.bind_eq_ok _ _ _).mp done
  cases same
  rfl

theorem outline_setFromParam {types : EnumTypes} {argument changed : Argument}
    {param : Datum} (done : argument.setFromParam types param = .ok changed) :
    changed.outline = argument.outline := by
  obtain ⟨held, _, same⟩ := (Except.bind_eq_ok _ _ _).mp done
  cases same
  rfl

theorem outline_reset (types : EnumTypes) (resetIds : Bool) (argument : Argument) :
    (Act.after (reset types resetIds) argument).outline = argument.outline := by
  simp only [Act.after, reset]
  by_cases kept : (argument.kind.isItem && !resetIds) = true
  · simp only [kept, if_true, Act.stateOf]
  · simp only [kept]
    cases argument.default.copy types with
    | ok value => rfl
    | error fault => rfl

/-- An argument followed by one that differs in no more than its default and its value. -/
def Alike (argument changed : Argument) : Prop := changed.outline = argument.outline

instance : IsPreorder Argument Alike where
  refl _ := rfl
  trans _ _ _ left right := right.trans left

theorem admits_alike : Admits (fun _ => True) Alike where
  updated _ := outline_setFromParam
  restored resetIds argument _ := outline_reset _ resetIds argument
  bound := outline_assign

end Argument

namespace Script

/-- All of a script but the values and the defaults of its arguments. -/
def outline : Script → Option (Profile × Bool × List (Option (ArgKind × Datum)))
  | destroyed => none
  | live script =>
      some (script.profile, script.held, script.slots.map (Option.map Argument.outline))

variable {α : Type}

/-- A result that leaves a script with no more changed than its values. -/
def SameOutline (script : Script) (result : EStateM.Result Fault Script α) : Prop :=
  (Act.stateOf result).outline = script.outline

/-- An action that changes no more than values, be it that it fails on the way. -/
def KeepsOutline (act : ScriptAct α) : Prop := ∀ script, SameOutline script (act script)

theorem outline_eq_of_changed {before after : Script}
    (changed : Changed Argument.Alike before after) : after.outline = before.outline := by
  cases changed with
  | destroyed => rfl
  | @live profile held slots changed each =>
      have same : changed.map (Option.map Argument.outline) =
          slots.map (Option.map Argument.outline) := by
        induction each with
        | nil => rfl
        | cons related _ ih =>
            rw [List.map_cons, List.map_cons, ih]
            cases related with
            | none => rfl
            | some alike => rw [Option.map_some, Option.map_some, alike]
      exact congrArg (fun shape => some (profile, held, shape)) same

/-! Scripts with all their arguments. -/

theorem filled_of_outline {slots : List (Option Argument)} {arguments : List Argument}
    (same : slots.map (Option.map Argument.outline) =
      (arguments.map some).map (Option.map Argument.outline)) :
    ∃ changed : List Argument, slots = changed.map some ∧
      changed.map Argument.outline = arguments.map Argument.outline := by
  induction arguments generalizing slots with
  | nil =>
      rw [List.map_nil, List.map_nil, List.map_eq_nil_iff] at same
      exact ⟨[], same, rfl⟩
  | cons argument arguments ih =>
      cases slots with
      | nil => cases same
      | cons slot slots =>
          simp only [List.map_cons, List.cons.injEq] at same
          obtain ⟨first, rest⟩ := same
          obtain ⟨changed, filled, others⟩ := ih rest
          cases slot with
          | none => cases first
          | some next =>
              refine ⟨next :: changed, by rw [filled, List.map_cons], ?_⟩
              rw [List.map_cons, List.map_cons, others, Option.some.inj first]

theorem ofArguments_of_outline {profile : Profile} {arguments : List Argument} {after : Script}
    (same : after.outline = (ofArguments profile arguments).outline) :
    ∃ changed, after = ofArguments profile changed ∧
      changed.map Argument.outline = arguments.map Argument.outline := by
  cases after with
  | destroyed => cases same
  | live script =>
      simp only [outline, ofArguments, Option.some.injEq, Prod.mk.injEq] at same
      obtain ⟨told, free, shape⟩ := same
      obtain ⟨changed, filled, others⟩ := filled_of_outline shape
      exact ⟨changed, by rw [ofArguments_eq script changed free filled, told], others⟩

theorem eq_destroyed_of_outline {after : Script} (same : after.outline = destroyed.outline) :
    after = destroyed := by
  cases after with
  | destroyed => rfl
  | live script => cases same

end Script

/-- What can be done to the values of a script. -/
inductive ValueChange where
  | assign (index value : Datum)
  | setFromParam (types : EnumTypes) (index param : Datum)
  | bindStandard (invocation : Invocation)
  | reset (types : EnumTypes) (resetIds : Bool)

namespace ValueChange

def act : ValueChange → ScriptAct Unit
  | assign index value => do let _ ← Script.assign index value
  | setFromParam types index param => do let _ ← Script.setFromParam types index param
  | bindStandard invocation => do let _ ← Script.bindStandard invocation
  | reset types resetIds => Script.reset types resetIds

/-- A change that looks into known enumerations only, and assigns nothing but what may be assigned
to the argument that has the index. -/
def Allowed (known : EnumTypes → Prop) (assignable : Argument → Payload → Prop)
    (script : Script) : ValueChange → Prop
  | assign index value => ∀ place held, Script.argumentAt index script = .ok place script →
      value = .payload held → assignable place.2 held
  | setFromParam types _ _ => known types
  | bindStandard _ => True
  | reset types _ => known types

theorem changed {known : EnumTypes → Prop} {assignable : Argument → Payload → Prop}
    {follows : Argument → Argument → Prop} [IsPreorder Argument follows]
    (admits : Argument.Admits known follows)
    (assigned : ∀ {argument held changed}, assignable argument held →
      argument.assign (.payload held) = .ok changed → follows argument changed)
    {change : ValueChange} {script : Script} (allowed : change.Allowed known assignable script) :
    Script.Changed follows script (Act.after change.act script) := by
  have done : Act.Moves (Script.Changed follows) (pure () : ScriptAct Unit) :=
    (Act.reads_pure ()).moves
  cases change with
  | assign index value =>
      refine Act.moved_bind (Script.changed_replaceArgument fun place changed found given => ?_)
        fun _ between _ => done between
      obtain ⟨held, rfl⟩ := Argument.payload_of_assign given
      exact assigned (allowed place held found rfl) given
  | setFromParam types index param =>
      have moves := Script.moves_setFromParam admits.toUpdates allowed index param
      exact moves.bind (fun _ => done) script
  | bindStandard invocation =>
      exact (Script.moves_bindStandard (admits.binding invocation)).bind (fun _ => done) script
  | reset types resetIds => exact Script.moves_reset admits.toUpdates allowed resetIds script

theorem keepsOutline (change : ValueChange) : Script.KeepsOutline change.act := by
  intro script
  have allowed : change.Allowed (fun _ => True) (fun _ _ => True) script := by
    cases change with
    | assign index value => exact fun _ _ _ _ => trivial
    | _ => trivial
  exact Script.outline_eq_of_changed
    (changed Argument.admits_alike (fun _ => Argument.outline_assign) allowed)

end ValueChange

end ScriptCatalog
