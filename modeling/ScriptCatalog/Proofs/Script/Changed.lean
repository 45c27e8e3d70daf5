import ScriptCatalog.Proofs.Script.Access
import ScriptCatalog.Script.Binding

/-! Changes of a script argument by argument. Whatever is done to the values of a script, its
profile and its slots stay, and every argument is followed by one that a single step can make of it.
What is known of single steps therefore holds of the whole script. -/

namespace ScriptCatalog

variable [Platform]

/-- A relation between an argument and the one that follows it which holds when a value is passed
in and when the default is restored, both with one of the known enumerations. -/
structure Argument.Updates (known : EnumTypes → Prop) (follows : Argument → Argument → Prop) :
    Prop where
  updated : ∀ {types param argument changed}, known types →
    argument.setFromParam types param = .ok changed → follows argument changed
  restored : ∀ {types} resetIds argument, known types →
    follows argument (Act.after (Argument.reset types resetIds) argument)

/-- A relation that holds for every single step: also when an identifier is bound. -/
structure Argument.Admits (known : EnumTypes → Prop) (follows : Argument → Argument → Prop) : Prop
    extends Argument.Updates known follows where
  bound : ∀ {id argument changed},
    argument.assign (.payload (.itemId id)) = .ok changed → follows argument changed

/-- A relation that holds when the identifier of a reference in an invocation is bound. -/
def Argument.AdmitsBinding (invocation : Invocation) (follows : Argument → Argument → Prop) :
    Prop :=
  ∀ {position param kind id argument changed}, invocation.itemAt position = .ok param →
    Script.boundId? kind param = some id →
      argument.assign (.payload (.itemId id)) = .ok changed → follows argument changed

theorem Argument.Admits.binding {known : EnumTypes → Prop} {follows : Argument → Argument → Prop}
    (admits : Admits known follows) (invocation : Invocation) :
    AdmitsBinding invocation follows := fun _ _ => admits.bound

theorem Argument.Admits.anti {known fewer : EnumTypes → Prop}
    {follows : Argument → Argument → Prop} (admits : Admits known follows)
    (knows : ∀ types, fewer types → known types) : Admits fewer follows where
  updated knew := admits.updated (knows _ knew)
  restored resetIds argument knew := admits.restored resetIds argument (knows _ knew)
  bound := admits.bound

namespace Script

variable {α : Type} {known : EnumTypes → Prop} {follows : Argument → Argument → Prop}

/-- A script before and after arguments were changed. A slot that was never filled stays so. -/
inductive Changed (follows : Argument → Argument → Prop) : Script → Script → Prop
  | destroyed : Changed follows destroyed destroyed
  | live (profile : Profile) (held : Bool) {slots changed : List (Option Argument)}
      (each : List.Forall₂ (Option.Rel follows) slots changed) :
      Changed follows (live ⟨profile, slots, held⟩) (live ⟨profile, changed, held⟩)

theorem Changed.exists_before {before after : Script} (changed : Changed follows before after)
    {argument : Argument} (filled : some argument ∈ after.slots) :
    ∃ earlier, some earlier ∈ before.slots ∧ follows earlier argument := by
  cases changed with
  | destroyed => cases filled
  | live profile held each =>
      simp only [Script.slots] at filled ⊢
      induction each with
      | nil => cases filled
      | cons related _ ih =>
          rcases List.mem_cons.mp filled with rfl | later
          · cases related with
            | some follow => exact ⟨_, List.mem_cons_self, follow⟩
          · obtain ⟨earlier, member, follow⟩ := ih later
            exact ⟨earlier, List.mem_cons_of_mem _ member, follow⟩

theorem Changed.ofArguments {profile : Profile} {arguments : List Argument} {after : Script}
    (changed : Changed follows (ofArguments profile arguments) after) :
    ∃ others, after = Script.ofArguments profile others ∧
      List.Forall₂ follows arguments others := by
  cases changed with
  | @live _ _ _ changed each =>
      rw [List.forall₂_map_left_iff] at each
      induction each with
      | nil => exact ⟨[], rfl, .nil⟩
      | cons related _ ih =>
          obtain ⟨others, same, rest⟩ := ih
          cases related with
          | some follow =>
              cases same
              exact ⟨_ :: others, rfl, .cons follow rest⟩

theorem map_kind_of_forall₂ {arguments others : List Argument}
    (same : ∀ argument changed, follows argument changed → changed.kind = argument.kind)
    (each : List.Forall₂ follows arguments others) :
    others.map (·.kind) = arguments.map (·.kind) := by
  induction each with
  | nil => rfl
  | cons follow _ ih => rw [List.map_cons, List.map_cons, same _ _ follow, ih]

theorem slots_trans [IsTrans Argument follows] {first second third : List (Option Argument)}
    (left : List.Forall₂ (Option.Rel follows) first second)
    (right : List.Forall₂ (Option.Rel follows) second third) :
    List.Forall₂ (Option.Rel follows) first third := by
  induction left generalizing third with
  | nil => exact right
  | cons related _ ih =>
      cases right with
      | cons relatedNext rest =>
          refine .cons ?_ (ih rest)
          cases related with
          | none => exact relatedNext
          | some follow =>
              cases relatedNext with
              | some followNext => exact .some (trans_of follows follow followNext)

theorem changed_setSlots (script : Script) {slots : List (Option Argument)}
    (each : List.Forall₂ (Option.Rel follows) script.slots slots) :
    Changed follows script (setSlots slots script) := by
  cases script with
  | destroyed => exact .destroyed
  | live script => exact .live script.profile script.held each

section

variable [IsPreorder Argument follows]

theorem slots_refl (slots : List (Option Argument)) :
    List.Forall₂ (Option.Rel follows) slots slots := by
  refine List.forall₂_same.mpr fun slot _ => ?_
  cases slot with
  | none => exact .none
  | some argument => exact .some (refl_of follows argument)

instance : IsPreorder Script (Changed follows) where
  refl script := by
    cases script with
    | destroyed => exact .destroyed
    | live script => exact .live script.profile script.held (slots_refl script.slots)
  trans first second third left right := by
    cases left with
    | destroyed => exact right
    | live profile held each =>
        cases right with
        | live _ _ eachNext => exact .live profile held (slots_trans each eachNext)

theorem slots_set {slots : List (Option Argument)} {position : Nat} {argument changed : Argument}
    (there : slots[position]? = some (some argument)) (follow : follows argument changed) :
    List.Forall₂ (Option.Rel follows) slots (slots.set position (some changed)) := by
  induction slots generalizing position with
  | nil => exact .nil
  | cons slot slots ih =>
      cases position with
      | zero =>
          cases there
          exact .cons (.some follow) (slots_refl slots)
      | succ position =>
          have same : Option.Rel follows slot slot :=
            (List.forall₂_cons.mp (slots_refl (slot :: slots))).1
          exact .cons same (ih there)

theorem changed_setSlot {script : Script} {position : Nat} {argument changed : Argument}
    (there : script.slots[position]? = some (some argument)) (follow : follows argument changed) :
    Changed follows script (setSlots (script.slots.set position (some changed)) script) :=
  changed_setSlots script (slots_set there follow)

end

theorem changed_holdOf {script : LiveScript} {next : Script}
    (free : script.held = false) (changed : Changed follows (holdOf script) next) :
    Changed follows (live script) next.letGo := by
  obtain ⟨profile, slots, held⟩ := script
  cases free
  cases changed with
  | live _ _ each => exact .live profile false each

section

variable [IsPreorder Argument follows]

theorem moves_exclusively {act : ScriptAct α} (moves : act.Moves (Changed follows)) :
    (exclusively act).Moves (Changed follows) := by
  intro script
  rcases exclusively_cases act script with ⟨fault, failed⟩ | ⟨free, rfl, notHeld⟩
  · rw [Act.after_of_error failed]
    exact refl_of _ script
  · -- Inside, the script is held, which is undone at the end whatever was done to it.
    have inside := moves (holdOf free)
    rw [Act.after, exclusively_free act free notHeld]
    cases ran : act (holdOf free) with
    | ok value next =>
        rw [Act.after_of_ok ran] at inside
        rw [ensuring_of_ok act ran]
        exact changed_holdOf notHeld inside
    | error fault next =>
        rw [Act.after_of_error ran] at inside
        rw [ensuring_of_error act ran]
        exact changed_holdOf notHeld inside

end

/-! Changing one argument. -/

theorem reads_argumentAt (index : Datum) : (argumentAt index).Reads := by
  refine reads_alive.bind fun script => (Act.reads_ofExcept _).bind fun place => ?_
  by_cases far : place < -indexLimit ∨ indexLimit ≤ place
  · simp only [far, if_true]
    exact Act.reads_throw_bind _ _
  · simp only [far, if_false]
    cases position? script.slots.length place with
    | none => exact Act.reads_throw _
    | some position =>
        rcases slot : script.slots[position]? with _ | _ | argument <;> simp only [slot]
        · exact Act.reads_throw _
        · exact Act.reads_throw _
        · exact Act.reads_pure _

theorem argumentAt_slot {index : Datum} {script after : Script} {position : Nat}
    {argument : Argument} (found : argumentAt index script = .ok (position, argument) after) :
    script.slots[position]? = some (some argument) := by
  cases script with
  | destroyed => cases found
  | live script =>
      obtain ⟨held, _, alive, found⟩ := (Act.bind_eq_ok _ _ _ _ _).mp found
      cases alive
      obtain ⟨place, _, found⟩ := (Act.bind_ofExcept_eq_ok _ _ _ _ _).mp found
      by_cases far : place < -indexLimit ∨ indexLimit ≤ place
      · simp only [far, if_true] at found
        cases found
      · simp only [far, if_false] at found
        cases counted : position? script.slots.length place with
        | none =>
            simp only [counted] at found
            cases found
        | some place =>
            simp only [counted] at found
            rcases slot : script.slots[place]? with _ | _ | there
            · simp only [slot] at found
              cases found
            · simp only [slot] at found
              cases found
            · simp only [slot] at found
              cases found
              exact slot

section

variable {index : Datum} {position : Nat} {argument changed : Argument}
  {script : Script} (found : argumentAt index script = .ok (position, argument) script)

include found

theorem onArgument_of_ok {act : Act Argument α} {value : α}
    (ran : act argument = .ok value changed) :
    onArgument index act script =
      .ok value (setSlots (script.slots.set position (some changed)) script) := by
  refine (Act.bind_of_ok _ found).trans ?_
  simp only [ran]
  rfl

theorem onArgument_of_error {act : Act Argument α} {fault : Fault}
    (failed : act argument = .error fault changed) :
    onArgument index act script =
      .error fault (setSlots (script.slots.set position (some changed)) script) := by
  refine (Act.bind_of_ok _ found).trans ?_
  simp only [failed]
  rfl

theorem replaceArgument_of_ok {change : Argument → Except Fault Argument}
    (given : change argument = .ok changed) :
    replaceArgument index change script =
      .ok changed.value (setSlots (script.slots.set position (some changed)) script) := by
  refine onArgument_of_ok found ?_
  rw [Act.get_bind, given]
  rfl

theorem replaceArgument_of_error {change : Argument → Except Fault Argument} {fault : Fault}
    (failed : change argument = .error fault) :
    replaceArgument index change script = .error fault script := by
  have unchanged : setSlots (script.slots.set position (some argument)) script = script := by
    rw [set_of_getElem? (argumentAt_slot found)]
    cases script with
    | destroyed => rfl
    | live script => rfl
  have stopped : (do
      let changed ← Act.ofExcept (change (← get))
      set changed
      return changed.value : Act Argument Payload) argument = .error fault argument := by
    rw [Act.get_bind, failed]
    rfl
  rw [replaceArgument, onArgument_of_error found stopped, unchanged]

end

section

variable [IsPreorder Argument follows]

theorem changed_onArgument {index : Datum} {act : Act Argument α} {script : Script}
    (step : ∀ place, argumentAt index script = .ok place script →
      follows place.2 (Act.after act place.2)) :
    Changed follows script (Act.after (onArgument index act) script) := by
  refine (reads_argumentAt index).moved_bind fun place found => ?_
  obtain ⟨position, argument⟩ := place
  have there := argumentAt_slot found
  have follow := step _ found
  cases ran : act argument with
  | ok value changed =>
      rw [Act.after_of_ok ran] at follow
      simp only [ran]
      exact changed_setSlot there follow
  | error fault changed =>
      rw [Act.after_of_error ran] at follow
      simp only [ran]
      exact changed_setSlot there follow

theorem changed_replaceArgument {index : Datum} {change : Argument → Except Fault Argument}
    {script : Script}
    (step : ∀ place changed, argumentAt index script = .ok place script →
      change place.2 = .ok changed → follows place.2 changed) :
    Changed follows script (Act.after (replaceArgument index change) script) := by
  refine changed_onArgument fun place found => ?_
  rw [Act.after, Act.get_bind]
  cases done : change place.2 with
  | ok changed => exact step place changed found done
  | error fault => exact refl_of follows place.2

theorem moves_setFromParam_of {types : EnumTypes} {param : Datum}
    (updated : ∀ argument changed, argument.setFromParam types param = .ok changed →
      follows argument changed) (index : Datum) :
    (setFromParam types index param).Moves (Changed follows) :=
  fun _ => changed_replaceArgument fun place changed _ => updated place.2 changed

theorem moves_setFromParam (updates : Argument.Updates known follows) {types : EnumTypes}
    (knows : known types) (index param : Datum) :
    (setFromParam types index param).Moves (Changed follows) :=
  moves_setFromParam_of (fun _ _ => updates.updated knows) index

/-! Changing all arguments. -/

theorem slots_eachArgument {act : Nat → Act Argument Unit}
    (moves : ∀ index, (act index).Moves follows) (index : Nat) (slots : List (Option Argument)) :
    List.Forall₂ (Option.Rel follows) slots (eachArgument act index slots).2 := by
  induction slots generalizing index with
  | nil => exact .nil
  | cons slot slots ih =>
      cases slot with
      | none => exact .cons .none (ih (index + 1))
      | some argument =>
          have follow := moves index argument
          cases ran : act index argument with
          | ok value changed =>
              rw [Act.after_of_ok ran] at follow
              simp only [eachArgument, ran]
              exact .cons (.some follow) (ih (index + 1))
          | error fault changed =>
              -- The arguments after the one that failed are as they were.
              rw [Act.after_of_error ran] at follow
              simp only [eachArgument, ran]
              exact .cons (.some follow) (slots_refl slots)

theorem moves_forArguments {act : Nat → Act Argument Unit}
    (moves : ∀ index, (act index).Moves follows) :
    (forArguments act).Moves (Changed follows) := by
  intro script
  have ran : forArguments act script = Act.ofExcept (eachArgument act 0 script.slots).1
      (setSlots (eachArgument act 0 script.slots).2 script) := rfl
  have changed := changed_setSlots script (slots_eachArgument moves 0 script.slots)
  rw [Act.after, ran]
  exact trans_of (Changed follows) changed ((Act.reads_ofExcept _).moves _)

theorem moves_reset_of {types : EnumTypes} {resetIds : Bool}
    (restored : ∀ argument, follows argument (Act.after (Argument.reset types resetIds) argument)) :
    (reset types resetIds).Moves (Changed follows) :=
  moves_exclusively <| reads_arguments.moves.bind fun _ => moves_forArguments fun _ => restored

theorem moves_reset (updates : Argument.Updates known follows) {types : EnumTypes}
    (knows : known types) (resetIds : Bool) :
    (reset types resetIds).Moves (Changed follows) :=
  moves_reset_of fun argument => updates.restored resetIds argument knows

theorem moves_storeParams_of {types : EnumTypes} {invocation : Invocation}
    (updated : ∀ position param argument changed, invocation.itemAt position = .ok param →
      argument.setFromParam types param = .ok changed → follows argument changed) :
    (storeParams types invocation).Moves (Changed follows) := by
  refine moves_exclusively <| reads_arguments.moves.bind fun _ => moves_forArguments fun index => ?_
  intro argument
  refine (Act.reads_ofExcept _).moved_bind fun param given => ?_
  have passed := ((Act.ofExcept_eq_ok _ _ _ _).mp given).1
  rw [Act.after, Act.get_bind]
  cases done : argument.setFromParam types param with
  | ok changed => exact updated _ _ _ _ passed done
  | error fault => exact refl_of follows argument

theorem moves_storeParams (updates : Argument.Updates known follows) {types : EnumTypes}
    (knows : known types) (invocation : Invocation) :
    (storeParams types invocation).Moves (Changed follows) :=
  moves_storeParams_of fun _ _ _ _ _ => updates.updated knows

/-! Binding. -/

theorem moves_bindArgument {invocation : Invocation}
    (binding : Argument.AdmitsBinding invocation follows) (kind : ArgKind) (index : Nat) :
    (bindArgument invocation kind index).Moves (Changed follows) := by
  intro script
  have same : Changed follows script script := refl_of _ script
  refine Act.reads_get.moved_bind fun held _ => ?_
  by_cases beyond : held.size ≤ index
  · simp only [beyond, if_true]
    exact same
  · simp only [beyond, if_false]
    refine (Act.reads_ofExcept _).moved_bind fun size _ => ?_
    by_cases few : size ≤ index + 1
    · simp only [few, if_true]
      exact same
    · simp only [few, if_false]
      refine (reads_argumentAt _).moved_bind fun place found => ?_
      have there := argumentAt_slot found
      by_cases kinds : place.2.kind = kind
      · simp only [kinds, ne_eq, not_true_eq_false, if_false]
        refine (Act.reads_ofExcept _).moved_bind fun param given => ?_
        cases bound : boundId? kind param with
        | none => exact same
        | some id =>
            cases assigned : place.2.assign (.payload (.itemId id)) with
            | ok changed =>
                simp only [assigned]
                have passed := ((Act.ofExcept_eq_ok _ _ _ _).mp given).1
                exact changed_setSlot there (binding passed bound assigned)
            | error fault =>
                simp only [assigned]
                exact same
      · simp only [kinds, ne_eq, not_false_eq_true, if_true]
        exact same

theorem moves_bindFirst {invocation : Invocation}
    (binding : Argument.AdmitsBinding invocation follows) (index : Nat) (kinds : List ArgKind) :
    (bindFirst invocation index kinds).Moves (Changed follows) := by
  induction kinds with
  | nil => exact (Act.reads_pure false).moves
  | cons kind kinds ih =>
      refine (moves_bindArgument binding kind index).bind fun bound => ?_
      cases bound with
      | true => exact (Act.reads_pure true).moves
      | false => exact ih

theorem moves_bindStandard {invocation : Invocation}
    (binding : Argument.AdmitsBinding invocation follows) :
    (bindStandard invocation).Moves (Changed follows) := by
  have done (bound : Nat) : Act.Moves (Changed follows) (pure bound : ScriptAct Nat) :=
    (Act.reads_pure bound).moves
  refine (Act.reads_require _ _).moves.bind fun _ => ?_
  refine Act.Moves.bind (moves_exclusively ?_) fun bound => ?_
  · refine (moves_bindArgument binding _ _).bind fun display => ?_
    refine (moves_bindArgument binding _ _).bind fun image => ?_
    cases image with
    | true =>
        refine (moves_bindFirst binding _ _).bind fun item => ?_
        cases item with
        | true => exact done _
        | false => exact done _
    | false => exact done _
  · exact reads_name.moves.bind fun _ => done bound

end

end Script

end ScriptCatalog
