import ScriptCatalog.Proofs.Runner.Declared
import ScriptCatalog.Proofs.Script.Storing
import ScriptCatalog.Script.Command

/-! Restoring defaults. A default that was copied when its argument was made is copied in the same
way again as long as the enumerations stay, whatever became of the value in between. Values can be
shared with each other meanwhile, but not with a default, which would be released with them. -/

namespace ScriptCatalog

section

variable [Platform]

namespace Payload

/-- A value that is a default again. Where the default of a color is no color but what one is made
from, such as a name, it is that color. -/
def Restates (default value : Payload) : Prop :=
  value = default ∨ ∃ shade mixed, default = color shade ∧ (∀ own, shade ≠ .color own) ∧
    Color.ofDatum shade = .ok mixed ∧ value = color (.color mixed)

theorem restates_copy {types : EnumTypes} {default value : Payload}
    (copied : default.copy types = .ok value) : default.Restates value := by
  cases default with
  | color shade =>
      obtain ⟨mixed, made, same⟩ := (Except.bind_eq_ok _ _ _).mp copied
      cases same
      by_cases own : ∃ held, shade = .color held
      · obtain ⟨held, rfl⟩ := own
        cases made
        exact .inl rfl
      · exact .inr ⟨shade, mixed, rfl, fun held same => own ⟨held, same⟩, made, rfl⟩
  | option labels selected =>
      obtain ⟨position, selects, _, rfl⟩ := makeOption_eq_ok copied
      cases Int.ofNat_inj.mp selects
      exact .inl rfl
  | enum typeName selected =>
      obtain ⟨_, position, _, selects, _, rfl⟩ := makeEnum_eq_ok copied
      rw [Datum.int.injEq] at selects
      cases Int.ofNat_inj.mp selects
      exact .inl rfl
  | _ =>
      cases copied
      exact .inl rfl

theorem release_of_itemId {payload : Payload} (form : payload.kind = .itemId) :
    payload.release = payload := by
  cases payload <;> cases form
  rfl

end Payload

namespace Argument

variable {types : EnumTypes} {declared later : Argument}

/-- An argument as it was made, and what it is after changes of its value. -/
structure Revises (types : EnumTypes) (declared later : Argument) : Prop where
  made : declared.Made (· = types)
  outline : later.outline = declared.outline
  default : later.default = declared.default
  form : later.value.kind = declared.kind.payloadKind

/-- The argument as it was made, but for the value of an item unless items are reset too. -/
def returned (resetIds : Bool) (declared later : Argument) : Argument :=
  if declared.kind.isItem && !resetIds then later else declared

theorem restates_of_made (made : declared.Made (· = types)) :
    declared.default.Restates declared.value := by
  obtain ⟨_, _, _, _, rfl, given⟩ := made
  obtain ⟨_, _, _, copied, rfl⟩ := make_eq_ok given
  exact Payload.restates_copy copied

/-- The copy that is made now is the one that was made then, of the same default. -/
theorem Revises.copied (revises : Revises types declared later) :
    later.default.copy types = .ok declared.value ∧
      { later with value := declared.value } = declared := by
  obtain ⟨⟨_, kind, label, default, rfl, given⟩, outline, sameDefault, _⟩ := revises
  obtain ⟨held, value, _, copied, rfl⟩ := make_eq_ok given
  obtain ⟨laterKind, laterLabel, laterDefault, laterValue⟩ := later
  obtain ⟨rfl, rfl⟩ := Prod.mk.inj outline
  cases sameDefault
  exact ⟨copied, rfl⟩

theorem Revises.kind_eq (revises : Revises types declared later) : later.kind = declared.kind :=
  congrArg Prod.fst revises.outline

theorem Revises.returned (revises : Revises types declared later) (resetIds : Bool) :
    Revises types declared (returned resetIds declared later) := by
  unfold Argument.returned
  split
  · exact revises
  · obtain ⟨made, _, _, form⟩ := revises
    obtain ⟨_, kind, label, default, known, given⟩ := made
    obtain ⟨held, value, valueForm, copied, rfl⟩ := make_eq_ok given
    refine ⟨⟨_, kind, label, default, known, given⟩, rfl, rfl, ?_⟩
    exact (Payload.kind_eq_of_fixed_eq (Payload.fixed_copy copied)).trans valueForm

/-- An argument whose value is released with another one is still to be restored. That of an item
has nothing to release. -/
theorem Revises.releasedAt (revises : Revises types declared later) {objects : Objects}
    (apart : objects.Apart) (slot index : Nat) :
    Revises types declared (later.releasedAt objects (.value slot) index) ∧
      ∀ resetIds, Argument.returned resetIds declared
          (later.releasedAt objects (.value slot) index) =
        Argument.returned resetIds declared later := by
  rw [releasedAt_of_apart apart]
  split
  · refine ⟨⟨revises.made, revises.outline, revises.default,
      (Payload.kind_release _).trans revises.form⟩, fun resetIds => ?_⟩
    unfold Argument.returned
    split
    next kept =>
      have item := (Bool.and_eq_true _ _).mp kept
      rw [Payload.release_of_itemId (revises.form.trans ((ArgKind.isItem_iff _).mp item.1))]
    next => rfl
  · exact ⟨revises, fun _ => rfl⟩

theorem returned_true (declared later : Argument) : returned true declared later = declared := by
  rw [returned, Bool.not_true, Bool.and_false]
  rfl

theorem returned_returned (resetIds : Bool) (declared later : Argument) :
    returned resetIds declared (returned resetIds declared later) =
      returned resetIds declared later := by
  unfold returned
  split <;> rfl

end Argument

namespace Script

variable {types : EnumTypes} {declared later : List Argument}

theorem revises_returned (each : List.Forall₂ (Argument.Revises types) declared later)
    (resetIds : Bool) :
    List.Forall₂ (Argument.Revises types) declared
      (List.zipWith (Argument.returned resetIds) declared later) := by
  induction each with
  | nil => exact .nil
  | cons revises _ ih => exact .cons (revises.returned resetIds) ih

theorem zipWith_returned_true (sameLength : declared.length = later.length) :
    List.zipWith (Argument.returned true) declared later = declared := by
  refine List.ext_getElem (by rw [List.length_zipWith, sameLength, Nat.min_self]) ?_
  intro index _ _
  rw [List.getElem_zipWith, Argument.returned_true]

theorem zipWith_returned_returned (resetIds : Bool) (declared later : List Argument) :
    List.zipWith (Argument.returned resetIds) declared
        (List.zipWith (Argument.returned resetIds) declared later) =
      List.zipWith (Argument.returned resetIds) declared later := by
  refine List.ext_getElem (by simp only [List.length_zipWith, Nat.min_self_assoc]) ?_
  intro index _ _
  rw [List.getElem_zipWith, List.getElem_zipWith, Argument.returned_returned]

/-- The arguments that are released with the one in a slot are still to be restored. -/
theorem revises_released (each : List.Forall₂ (Argument.Revises types) declared later)
    {objects : Objects} (apart : objects.Apart) (slot offset : Nat) :
    List.Forall₂ (Argument.Revises types) declared
        (later.mapIdx fun index => Argument.releasedAt objects (.value slot) (index + offset)) ∧
      ∀ resetIds, List.zipWith (Argument.returned resetIds) declared
          (later.mapIdx fun index => Argument.releasedAt objects (.value slot) (index + offset)) =
        List.zipWith (Argument.returned resetIds) declared later := by
  induction each generalizing offset with
  | nil => exact ⟨.nil, fun _ => rfl⟩
  | cons revises _ ih =>
      obtain ⟨first, sameFirst⟩ := revises.releasedAt apart slot offset
      obtain ⟨rest, sameRest⟩ := ih (offset + 1)
      have shifted (index : Nat) : index + 1 + offset = index + (offset + 1) := by omega
      simp only [List.mapIdx_cons, Nat.zero_add, shifted]
      refine ⟨.cons first rest, fun resetIds => ?_⟩
      rw [List.zipWith_cons_cons, List.zipWith_cons_cons, sameFirst, sameRest]

/-- Arguments that have been gone through, which nothing that follows changes. -/
def Settled (objects : Objects) (done : List Argument) : Prop :=
  ∀ index argument, done[index]? = some argument →
    argument.value.release = argument.value ∨ objects (.value index) = none

theorem mapIdx_releasedAt_of_settled {objects : Objects} (apart : objects.Apart)
    {done : List Argument} (settled : Settled objects done) :
    done.mapIdx (fun index => Argument.releasedAt objects (.value done.length) index) = done := by
  refine List.ext_getElem (List.length_mapIdx ..) fun index _ inside => ?_
  have other : (PayloadPlace.value done.length == .value index) = false := by
    rw [beq_eq_false_iff_ne]
    rintro ⟨⟩
    exact Nat.lt_irrefl _ inside
  rw [List.getElem_mapIdx, Argument.releasedAt_of_apart apart]
  rcases settled index _ (List.getElem?_eq_getElem inside) with kept | alone
  · rw [kept, ite_self]
  · rw [Objects.together, other, alone, Bool.false_or]
    cases objects (.value done.length) <;> rfl

/-- What the release of the next argument's value leaves of all arguments. -/
theorem releaseAt_of_settled {objects : Objects} (apart : objects.Apart) {done : List Argument}
    (settled : Settled objects done) (argument : Argument) (later : List Argument) :
    releaseAt objects (.value done.length) ((done ++ argument :: later).map some) =
      (done ++ { argument with value := argument.value.release } :: later.mapIdx fun index =>
        Argument.releasedAt objects (.value done.length) (index + (done.length + 1))).map some := by
  have mapped : releaseAt objects (.value done.length) ((done ++ argument :: later).map some) =
      ((done ++ argument :: later).mapIdx fun index =>
        Argument.releasedAt objects (.value done.length) index).map some := by
    refine List.ext_getElem? fun index => ?_
    rw [getElem?_releaseAt, List.getElem?_map, List.getElem?_map, List.getElem?_mapIdx]
    cases (done ++ argument :: later)[index]? <;> rfl
  have shifted (index : Nat) : index + 1 + done.length = index + (done.length + 1) := by omega
  rw [mapped, List.mapIdx_append, List.mapIdx_cons, Nat.zero_add,
    mapIdx_releasedAt_of_settled apart settled, Argument.releasedAt_self apart]
  simp only [shifted]

theorem Settled.append {objects : Objects} {done : List Argument} (settled : Settled objects done)
    {argument : Argument}
    (last : argument.value.release = argument.value ∨ objects (.value done.length) = none) :
    Settled objects (done ++ [argument]) := by
  intro index other there
  by_cases before : index < done.length
  · rw [List.getElem?_append_left before] at there
    exact settled index other there
  · obtain ⟨beyond, rfl⟩ := Nat.exists_eq_add_of_le (Nat.le_of_not_lt before)
    rw [List.getElem?_append_right (Nat.le_add_right _ _), Nat.add_sub_cancel_left] at there
    cases beyond with
    | zero =>
        cases there
        exact last
    | succ beyond => cases there

theorem Settled.renew {objects : Objects} {done : List Argument} (settled : Settled objects done)
    (place : PayloadPlace) : Settled (objects.renew place) done := by
  intro index argument there
  refine (settled index argument there).imp_right fun alone => ?_
  rw [Objects.renew, alone, ite_self]

theorem resetSlots_of_revises (each : List.Forall₂ (Argument.Revises types) declared later)
    {objects : Objects} (apart : objects.Apart) (resetIds : Bool) {done : List Argument}
    (settled : Settled objects done) :
    resetSlots types resetIds objects (List.range' done.length later.length)
        ((done ++ later).map some) =
      (.ok (), (done ++ List.zipWith (Argument.returned resetIds) declared later).map some) := by
  induction declared generalizing later objects done with
  | nil =>
      cases each
      rfl
  | cons first declared ih =>
      cases each with
      | @cons _ argument _ later revises each =>
          have there : ((done ++ argument :: later).map some)[done.length]? =
              some (some argument) := by simp
          have next {objects : Objects} (apart : objects.Apart) {changed : Argument}
              {others : List Argument}
              (each : List.Forall₂ (Argument.Revises types) declared others)
              (settled : Settled objects (done ++ [changed])) :
              resetSlots types resetIds objects (List.range' (done.length + 1) others.length)
                  ((done ++ changed :: others).map some) =
                (.ok (), (done ++ changed ::
                  List.zipWith (Argument.returned resetIds) declared others).map some) := by
            have rest := ih each apart settled
            simpa only [List.length_append, List.length_singleton, List.append_assoc,
              List.singleton_append] using rest
          rw [List.length_cons, List.range'_succ, resetSlots, there, List.zipWith_cons_cons,
            Argument.returned]
          simp only [revises.kind_eq]
          by_cases kept : (first.kind.isItem && !resetIds) = true
          · have item := (Bool.and_eq_true _ _).mp kept
            simp only [kept, if_true]
            refine next apart each (settled.append (.inl ?_))
            exact Payload.release_of_itemId
              (revises.form.trans ((ArgKind.isItem_iff _).mp item.1))
          · obtain ⟨copied, whole⟩ := revises.copied
            obtain ⟨released, same⟩ := revises_released each apart done.length (done.length + 1)
            simp only [kept, Bool.false_eq_true, if_false, Argument.releasedAt_self apart, copied,
              whole, releaseAt_of_settled apart settled]
            rw [List.map_append, List.map_cons, List.set_append_right _ _ (by simp),
              List.length_map, Nat.sub_self, List.set_cons_zero, ← List.map_cons,
              ← List.map_append, ← same resetIds]
            have size : later.length = (later.mapIdx fun index =>
                Argument.releasedAt objects (.value done.length)
                  (index + (done.length + 1))).length := (List.length_mapIdx ..).symm
            rw [size]
            refine next (apart.renew _) released ((settled.renew _).append (.inr ?_))
            rw [Objects.renew, if_pos rfl]

theorem resetAmong_of_revises (each : List.Forall₂ (Argument.Revises types) declared later)
    {objects : Objects} (apart : objects.Apart) (profile : Profile) (resetIds : Bool) :
    resetAmong objects types resetIds (ofArguments profile later) =
      .ok () (ofArguments profile
        (List.zipWith (Argument.returned resetIds) declared later)) := by
  have settled : Settled objects [] := by
    intro _ _ there
    cases there
  have ran := resetSlots_of_revises each apart resetIds settled
  rw [List.length_nil, List.nil_append, List.nil_append, ← List.length_map some,
    ← List.range_eq_range'] at ran
  refine exclusively_ok rfl rfl ?_
  refine (Act.bind_of_ok _ (arguments_of_slots _ later rfl)).trans ?_
  rw [resetInTurn_eq]
  exact congrArg (fun reset => Act.ofExcept reset.1
    (setSlots reset.2 (holdOf ⟨profile, later.map some, false⟩))) ran

theorem changed_of_reachesAmong {script after : Script}
    (inherits : Payload.Inherits (· = types) fun _ _ => True)
    (reached : ReachesAmong (· = types) (fun _ _ => True) Objects.Apart script after) :
    Changed (Argument.Carries (· = types) fun _ _ => True) script after := by
  refine reached.changed (Argument.admits_carries inherits)
    (fun _ given => Argument.carries_assign (fun _ _ => trivial) given) ?_ ?_
  · intro argument
    refine Argument.carries_of_value fun within => ⟨?_, trivial⟩
    exact (Payload.kind_release argument.value).trans within.valueForm
  · intro types argument value _ copied
    refine Argument.carries_of_value fun within => ⟨?_, trivial⟩
    exact (Payload.kind_eq_of_fixed_eq (Payload.fixed_copy copied)).trans within.defaultForm

end Script

end

namespace Script

/-! An image, two texts and a paint mode, before and after values were passed in for them. The
second text is assigned the value of the first one, and is the same object then. -/

def paintedArguments (id : Int) (words : String) (mode : Nat) : List Argument := [
  { kind := .image, label := .text "I", default := .itemId (.int (-1))
    value := .itemId (.int id) },
  { kind := .string, label := .text "S", default := .text (.text "x")
    value := .text (.text words) },
  { kind := .text, label := .text "T", default := .text (.text "x")
    value := .text (.text words) },
  { kind := .enum, label := .text "P", default := .enum (.text "PaintMode") 1
    value := .enum (.text "PaintMode") mode }]

def painted (id : Int) (words : String) (mode : Nat) : Script :=
  ofArguments (.plain "s") (paintedArguments id words mode)

theorem built_painted [Platform] : Built (· = .standard) (painted (-1) "x" 1) := by
  refine .created fun argument member => ?_
  simp only [paintedArguments, List.mem_cons, List.not_mem_nil, or_false] at member
  rcases member with rfl | rfl | rfl | rfl
  · exact ⟨.standard, .image, .text "I", .payload (.itemId (.int (-1))), rfl, rfl⟩
  · exact ⟨.standard, .string, .text "S", .payload (.text (.text "x")), rfl, rfl⟩
  · exact ⟨.standard, .text, .text "T", .payload (.text (.text "x")), rfl, rfl⟩
  · exact ⟨.standard, .enum, .text "P", .payload (.enum (.text "PaintMode") 1), rfl, rfl⟩

def namedColor : Argument :=
  { kind := .color, label := .text "C", default := .color (.text "red")
    value := .color (.color (Color.ofText "red")) }

def optionDefault (labels : List Datum) : Argument :=
  { kind := .option, label := .text "O", default := .option labels 0, value := .option labels 0 }

end Script

end ScriptCatalog
