import Mathlib.Data.List.Forall2
import ScriptCatalog.Proofs.Script.Changed
import ScriptCatalog.Script.Sharing

/-! Resets where no payload is shared, or none of a value with a default. In the first case each
argument is reset by itself. In the second one the defaults stay, though a value may be released
before its turn comes. -/

namespace ScriptCatalog

namespace Objects

variable {objects : Objects} {place other : PayloadPlace}

/-- No two places keep the same object. -/
def Unshared (objects : Objects) : Prop :=
  ∀ place other, objects.together place other = true → place = other

/-- No object is kept as a value and as a default. -/
def Apart (objects : Objects) : Prop :=
  ∀ slot other, objects.together (.value slot) (.default other) = false

theorem together_self (objects : Objects) (place : PayloadPlace) :
    objects.together place place = true := by
  rw [together, beq_self_eq_true, Bool.true_or]

theorem together_separate : separate.together place other = (place == other) := by
  rw [together, separate, Option.isSome_none, Bool.false_and, Bool.or_false]

theorem unshared_separate : separate.Unshared := by
  intro place other same
  rw [together_separate] at same
  exact eq_of_beq same

theorem apart_sharedValues (slot other : Nat) : (sharedValues slot other).Apart := by
  intro place default
  simp [together, sharedValues]

theorem Unshared.apart (unshared : objects.Unshared) : objects.Apart := by
  intro slot other
  rw [← Bool.not_eq_true]
  exact fun same => PayloadPlace.noConfusion (unshared _ _ same)

theorem together_of_renew {renewed : PayloadPlace}
    (same : (objects.renew renewed).together place other = true) :
    objects.together place other = true := by
  simp only [together, renew, Bool.or_eq_true, Bool.and_eq_true, beq_iff_eq] at same ⊢
  refine same.imp_right fun ⟨kept, equal⟩ => ?_
  by_cases first : place = renewed
  · simp [first] at kept
  · by_cases second : other = renewed
    · simp only [if_neg first, if_pos second] at kept equal
      simp [equal] at kept
    · simp only [if_neg first, if_neg second] at kept equal
      exact ⟨kept, equal⟩

theorem Unshared.renew (unshared : objects.Unshared) (renewed : PayloadPlace) :
    (objects.renew renewed).Unshared :=
  fun place other same => unshared place other (together_of_renew same)

theorem Apart.renew (apart : objects.Apart) (renewed : PayloadPlace) :
    (objects.renew renewed).Apart := by
  intro slot other
  rw [← Bool.not_eq_true]
  intro same
  have before := together_of_renew same
  rw [apart slot other] at before
  cases before

end Objects

variable [Platform]

namespace Argument

variable {objects : Objects}

theorem releasedAt_of_ne (unshared : objects.Unshared) {slot index : Nat} (other : index ≠ slot)
    (argument : Argument) : argument.releasedAt objects (.value slot) index = argument := by
  have value : objects.together (.value slot) (.value index) = false := by
    rw [← Bool.not_eq_true]
    intro same
    exact other (PayloadPlace.value.inj (unshared _ _ same)).symm
  rw [releasedAt, unshared.apart slot index, value]
  rfl

/-- Where no value is a default, the default of an argument stays. -/
theorem releasedAt_self (apart : objects.Apart) (slot : Nat) (argument : Argument) :
    argument.releasedAt objects (.value slot) slot =
      { argument with value := argument.value.release } := by
  rw [releasedAt, apart slot slot, objects.together_self]
  rfl

theorem releasedAt_of_apart (apart : objects.Apart) (slot index : Nat) (argument : Argument) :
    argument.releasedAt objects (.value slot) index =
      { argument with
        value :=
          if objects.together (.value slot) (.value index) then argument.value.release
          else argument.value } := by
  rw [releasedAt, apart slot index]
  rfl

end Argument

namespace Script

variable {objects : Objects} {types : EnumTypes} {resetIds : Bool}

theorem getElem?_releaseAt (objects : Objects) (place : PayloadPlace)
    (slots : List (Option Argument)) (index : Nat) :
    (releaseAt objects place slots)[index]? =
      slots[index]?.map fun held => held.map (Argument.releasedAt objects place index) := by
  rw [releaseAt, List.getElem?_mapIdx]

theorem releaseAt_of_unshared (unshared : objects.Unshared) {slots : List (Option Argument)}
    {slot : Nat} {argument : Argument} (there : slots[slot]? = some (some argument)) :
    releaseAt objects (.value slot) slots =
      slots.set slot (some { argument with value := argument.value.release }) := by
  have inside : slot < slots.length := (List.getElem?_eq_some_iff.mp there).1
  refine List.ext_getElem? fun index => ?_
  rw [getElem?_releaseAt]
  by_cases same : slot = index
  · cases same
    rw [there, List.getElem?_set_self inside, Option.map_some, Option.map_some,
      Argument.releasedAt_self unshared.apart]
  · rw [List.getElem?_set_ne same]
    rcases slots[index]? with _ | _ | other
    · rfl
    · rfl
    · rw [Option.map_some, Option.map_some,
        Argument.releasedAt_of_ne unshared (Ne.symm same)]

/-- Slots that were gone through, with what those that follow become. -/
theorem resetSlots_of_unshared (unshared : objects.Unshared)
    (done slots : List (Option Argument)) :
    resetSlots types resetIds objects (List.range' done.length slots.length) (done ++ slots) =
      Prod.map id (done ++ ·)
        (eachArgument (fun _ => Argument.reset types resetIds) done.length slots) := by
  induction slots generalizing objects done with
  | nil => rfl
  | cons held slots ih =>
      have there : (done ++ held :: slots)[done.length]? = some held := by simp
      have next (objects : Objects) (unshared : objects.Unshared) (changed : Option Argument) :
          resetSlots types resetIds objects (List.range' (done.length + 1) slots.length)
              (done ++ changed :: slots) =
            Prod.map id (done ++ changed :: ·)
              (eachArgument (fun _ => Argument.reset types resetIds) (done.length + 1) slots) := by
        have rest := ih unshared (done ++ [changed])
        simpa only [List.length_append, List.length_singleton, List.append_assoc,
          List.singleton_append] using rest
      rw [List.length_cons, List.range'_succ, resetSlots, there]
      cases held with
      | none => exact next objects unshared none
      | some argument =>
          rw [eachArgument, Argument.reset]
          simp only
          by_cases kept : (argument.kind.isItem && !resetIds) = true
          · simp only [kept, if_true]
            exact next objects unshared (some argument)
          · simp only [kept, Bool.false_eq_true, if_false,
              Argument.releasedAt_self unshared.apart, releaseAt_of_unshared unshared there]
            cases argument.default.copy types with
            | error fault =>
                simp only [Prod.map, id, List.set_append_right _ _ (Nat.le_refl _), Nat.sub_self,
                  List.set_cons_zero]
            | ok value =>
                simp only [List.set_append_right _ _ (Nat.le_refl _), Nat.sub_self,
                  List.set_cons_zero]
                exact next _ (unshared.renew _) _

theorem resetInTurn_eq (objects : Objects) (types : EnumTypes) (resetIds : Bool)
    (script : Script) :
    resetInTurn objects types resetIds script =
      let reset := resetSlots types resetIds objects (List.range script.slots.length) script.slots
      Act.ofExcept reset.1 (setSlots reset.2 script) := rfl

/-- Where no payload is shared, each argument is reset by itself. -/
theorem resetAmong_of_unshared (unshared : objects.Unshared) (types : EnumTypes)
    (resetIds : Bool) : resetAmong objects types resetIds = reset types resetIds := by
  have inTurn : resetInTurn objects types resetIds =
      forArguments fun _ => Argument.reset types resetIds := by
    funext script
    rw [resetInTurn_eq, List.range_eq_range']
    exact congrArg (fun reset => Act.ofExcept reset.1 (setSlots reset.2 script))
      (resetSlots_of_unshared unshared [] script.slots)
  rw [resetAmong, inTurn, reset]

section

variable {follows : Argument → Argument → Prop} [IsPreorder Argument follows]
  (apart : objects.Apart)
  (released : ∀ argument : Argument,
    follows argument { argument with value := argument.value.release })
  (restored : ∀ (argument : Argument) (value : Payload),
    argument.default.copy types = .ok value → follows argument { argument with value })

include apart released

theorem slots_releaseAt (slot : Nat) (slots : List (Option Argument)) :
    List.Forall₂ (Option.Rel follows) slots (releaseAt objects (.value slot) slots) := by
  rw [List.forall₂_iff_get]
  refine ⟨by rw [releaseAt, List.length_mapIdx], fun index inside _ => ?_⟩
  simp only [releaseAt, List.get_eq_getElem, List.getElem_mapIdx]
  rcases slots[index] with _ | argument
  · exact .none
  · refine .some ?_
    rw [Argument.releasedAt_of_apart apart]
    split
    · exact released argument
    · exact refl_of follows argument

include restored

theorem slots_resetSlots (resetIds : Bool) (later : List Nat) (slots : List (Option Argument)) :
    List.Forall₂ (Option.Rel follows) slots
      (resetSlots types resetIds objects later slots).2 := by
  induction later generalizing objects slots with
  | nil => exact slots_refl slots
  | cons slot later ih =>
      rw [resetSlots]
      rcases there : slots[slot]? with _ | _ | argument
      · exact ih apart slots
      · exact ih apart slots
      · simp only
        by_cases kept : (argument.kind.isItem && !resetIds) = true
        · simp only [kept, if_true]
          exact ih apart slots
        · have free := slots_releaseAt apart released slot slots
          simp only [kept, Bool.false_eq_true, if_false, Argument.releasedAt_self apart]
          cases copied : argument.default.copy types with
          | error fault => exact free
          | ok value =>
              -- What was released before is replaced, and so are the others in their turn.
              have held : (releaseAt objects (.value slot) slots)[slot]? =
                  some (some { argument with value := argument.value.release }) := by
                rw [getElem?_releaseAt, there, Option.map_some, Option.map_some,
                  Argument.releasedAt_self apart]
              refine slots_trans (slots_trans free ?_) (ih (apart.renew _) _)
              exact slots_set held
                (restored { argument with value := argument.value.release } value copied)

theorem moves_resetAmong (resetIds : Bool) :
    (resetAmong objects types resetIds).Moves (Changed follows) := by
  refine moves_exclusively (reads_arguments.moves.bind fun _ script => ?_)
  have changed := changed_setSlots script
    (slots_resetSlots apart released restored resetIds (List.range script.slots.length)
      script.slots)
  rw [Act.after, resetInTurn_eq]
  exact trans_of (Changed follows) changed ((Act.reads_ofExcept _).moves _)

end

end Script

end ScriptCatalog
