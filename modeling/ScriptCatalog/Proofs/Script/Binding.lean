import ScriptCatalog.Proofs.Script.Leading
import ScriptCatalog.Proofs.Script.Storing

/-! Binding values that are stored already. What binding writes for an image, an item or a display
is what storing it wrote, so that the script stays as it is. -/

namespace ScriptCatalog

variable [Platform]

theorem updated_of_object {types : EnumTypes} {payload value : Payload} {passed : HostKind}
    {id : Datum} (updated : payload.updated types (.object passed id) = .ok value) :
    value = .itemId id := by
  cases payload with
  | itemId held =>
      obtain ⟨number, given, same⟩ := (Except.bind_eq_ok _ _ _).mp updated
      cases same
      cases id <;> cases given
      rfl
  | option labels selected => cases updated
  | enum typeName selected => cases updated
  | _ => cases updated

theorem assign_bound {types : EnumTypes} {argument : Argument} {param id : Datum} {value : Payload}
    (updated : argument.value.updated types param = .ok value)
    (bound : Script.boundId? argument.kind param = some id) :
    Argument.assign (.payload (.itemId id)) { argument with value } =
      .ok { argument with value } := by
  obtain ⟨⟨passed, rfl⟩, kind⟩ := boundId?_eq_some bound
  cases updated_of_object updated
  exact Argument.assign_itemId id kind

namespace Script

/-- Every reference in an invocation is stored in the argument that it is for. -/
def BoundAlready (again : Invocation) (arguments : List Argument) : Prop :=
  ∀ index (inside : index < arguments.length) param id, again.itemAt (index + 1) = .ok param →
    boundId? arguments[index].kind param = some id →
      arguments[index].assign (.payload (.itemId id)) = .ok arguments[index]

/-- An action that succeeds and leaves a script as it is. -/
def Keeps {α : Type} (act : ScriptAct α) (script : Script) : Prop :=
  ∃ value, act script = .ok value script

/-- Binding what is stored already changes nothing. -/
theorem bindStandard_keeps (again : Invocation) (items : List Datum) (profile : Profile)
    (name : String) (arguments : List Argument) (named : profile.name = .text name)
    (listed : again.sequence? = some items) (already : BoundAlready again arguments) :
    Keeps (bindStandard again) (ofArguments profile arguments) := by
  have positions := itemsByPosition_of_sequence listed
  have known : profile.name.isNull = false := by
    rw [named]
    rfl
  obtain ⟨count, changed, ran, greatest, binds⟩ :=
    bindStandard_greatest known (positions 1) arguments
  have same : changed = arguments := by
    refine binds.eq_self fun index argument passed id below there given => ?_
    obtain ⟨kinds, passes⟩ := greatest.1.passes below
    have bound := passes.boundId?_eq there given
    obtain ⟨inside, rfl⟩ := List.getElem?_eq_some_iff.mp there
    have item : again.itemAt (index + 1) = .ok (.object passed id) :=
      (itemAt_eq_ok_iff _ _ _).mpr ⟨items, positions (index + 1), given⟩
    have assigned := (already index inside _ id item bound).symm.trans
      (Argument.assign_itemId id (boundId?_eq_some bound).2)
    exact congrArg (·.value) (Except.ok.inj assigned)
  rw [same] at ran
  exact ⟨count, ran⟩

end Script

end ScriptCatalog
