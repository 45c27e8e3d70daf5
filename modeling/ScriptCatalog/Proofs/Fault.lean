import Mathlib.Data.Option.Basic
import ScriptCatalog.Fault

/-! What is raised in the place of a fault. A fault whose message shows a value that cannot be
written out is not raised, and what is raised tells of the value instead. What can be written out
has nothing in it that cannot be. -/

namespace ScriptCatalog

variable [Platform]

/-! Values and what is in them. -/

namespace Datum

mutual

/-- With more room no other value is kept from being written out. -/
theorem obstacle?_succ (room : Nat) (value : Datum) (shown : obstacle? room value = none) :
    obstacle? (room + 1) value = none := by
  cases value with
  | int value => exact shown
  | list items =>
      cases room with
      | zero => cases shown
      | succ room => exact itemsObstacle?_succ room items shown
  | tuple items =>
      cases room with
      | zero => cases shown
      | succ room => exact itemsObstacle?_succ room items shown
  | record fields =>
      cases room with
      | zero => cases shown
      | succ room => exact fieldsObstacle?_succ room fields shown
  | object kind id =>
      cases room with
      | zero => cases shown
      | succ room => exact obstacle?_succ room id shown
  | payload held =>
      cases room with
      | zero => cases shown
      | succ room => exact payloadObstacle?_succ room held shown
  | _ => rfl

theorem itemsObstacle?_succ (room : Nat) (items : List Datum)
    (shown : itemsObstacle? room items = none) : itemsObstacle? (room + 1) items = none := by
  cases items with
  | nil => rfl
  | cons item rest =>
      rw [itemsObstacle?, Option.orElse_eq_none] at shown ⊢
      exact ⟨obstacle?_succ room item shown.1, itemsObstacle?_succ room rest shown.2⟩

theorem fieldsObstacle?_succ (room : Nat) (fields : List (String × Datum))
    (shown : fieldsObstacle? room fields = none) : fieldsObstacle? (room + 1) fields = none := by
  cases fields with
  | nil => rfl
  | cons field rest =>
      obtain ⟨key, value⟩ := field
      rw [fieldsObstacle?, Option.orElse_eq_none] at shown ⊢
      exact ⟨obstacle?_succ room value shown.1, fieldsObstacle?_succ room rest shown.2⟩

theorem payloadObstacle?_succ (room : Nat) (held : Payload)
    (shown : payloadObstacle? room held = none) : payloadObstacle? (room + 1) held = none := by
  cases held with
  | itemId part | color part | toggle part | rawText part | text part | file part | resource part =>
      exact obstacle?_succ room part shown
  | enum part selected => exact obstacle?_succ room part shown
  | adjustment value lower upper step page digits slider =>
      simp only [payloadObstacle?, Option.orElse_eq_none] at shown ⊢
      obtain ⟨first, second, third, fourth, fifth, sixth, last⟩ := shown
      exact ⟨obstacle?_succ room value first, obstacle?_succ room lower second,
        obstacle?_succ room upper third, obstacle?_succ room step fourth,
        obstacle?_succ room page fifth, obstacle?_succ room digits sixth,
        obstacle?_succ room slider last⟩
  | brush name opacity spacing paintMode =>
      simp only [payloadObstacle?, Option.orElse_eq_none] at shown ⊢
      obtain ⟨first, second, third, last⟩ := shown
      exact ⟨obstacle?_succ room name first, obstacle?_succ room opacity second,
        obstacle?_succ room spacing third, obstacle?_succ room paintMode last⟩
  | option labels selected =>
      cases room with
      | zero => cases shown
      | succ room => exact itemsObstacle?_succ room labels shown

end

theorem obstacle?_of_mem {room : Nat} {items : List Datum}
    (shown : itemsObstacle? room items = none) {item : Datum} (member : item ∈ items) :
    obstacle? room item = none := by
  induction items with
  | nil => cases member
  | cons first rest ih =>
      rw [itemsObstacle?, Option.orElse_eq_none] at shown
      rcases List.mem_cons.mp member with rfl | later
      · exact shown.1
      · exact ih shown.2 later

/-- What is in a list or a tuple that can be written out can be written out. -/
theorem unshown?_of_mem {value item : Datum} {items : List Datum}
    (listed : value.sequence? = some items) (member : item ∈ items)
    (shown : value.unshown? = none) : item.unshown? = none := by
  rw [unshown?] at shown ⊢
  cases value with
  | list held | tuple held =>
      cases listed
      cases room : Platform.showing with
      | zero =>
          rw [room] at shown
          cases shown
      | succ inside =>
          rw [room] at shown
          exact obstacle?_succ inside item (obstacle?_of_mem shown member)
  | _ => cases listed

end Datum

namespace Obstacle

theorem kind_fault (obstacle : Obstacle) :
    obstacle.fault.kind = .badValue ∨ obstacle.fault.kind = .tooDeep := by
  cases obstacle with
  | tooLong => exact .inl rfl
  | tooDeep => exact .inr rfl

end Obstacle

/-! What is raised. -/

namespace Fault

/-- No fault of a default that has another one for its cause. -/
def IsPlain (fault : Fault) : Prop := ∀ script position kind label default cause,
  fault ≠ .invalidDefault script position kind label default cause

/-- A fault is raised if the values that its message shows can be written out. -/
theorem raised_cases (fault : Fault) (plain : fault.IsPlain) :
    (∀ value ∈ fault.shown, value.unshown? = none) ∧ fault.raised = fault ∨
      ∃ value ∈ fault.shown, ∃ obstacle, value.unshown? = some obstacle ∧
        fault.raised = obstacle.fault := by
  have raised : fault.raised =
      (fault.shown.findSome? Datum.unshown?).elim fault Obstacle.fault := by
    unfold Fault.raised
    split
    next => exact absurd rfl (plain _ _ _ _ _ _)
    next => cases fault.shown.findSome? Datum.unshown? <;> rfl
  cases found : fault.shown.findSome? Datum.unshown? with
  | none =>
      rw [found] at raised
      exact .inl ⟨List.findSome?_eq_none_iff.mp found, raised⟩
  | some obstacle =>
      rw [found] at raised
      obtain ⟨value, member, unshown⟩ := List.exists_of_findSome?_eq_some found
      exact .inr ⟨value, member, obstacle, unshown, raised⟩

/-- A wrong type or a wrong value, which is reported with the declaration it was found in. It is
raised if certain values can be written out. -/
structure Refuses (values : List Datum) (fault : Fault) : Prop where
  kind : fault.kind = .badType ∨ fault.kind = .badValue
  plain : fault.IsPlain
  raised : (∀ value ∈ values, value.unshown? = none) → fault.raised = fault

variable {values others : List Datum} {fault : Fault}

theorem refuses_of_shown (kind : fault.kind = .badType ∨ fault.kind = .badValue)
    (plain : fault.IsPlain)
    (shown : ∀ value ∈ fault.shown, value.unshown? ≠ none → value ∈ values) :
    fault.Refuses values := by
  refine ⟨kind, plain, fun each => ?_⟩
  rcases fault.raised_cases plain with ⟨_, same⟩ | ⟨value, member, obstacle, unshown, _⟩
  · exact same
  · have among := shown value member (by rw [unshown]; nofun)
    cases unshown.symm.trans (each value among)

/-- What shows nothing but a value is raised if that can be written out. -/
theorem refuses_of_eq {value : Datum} (kind : fault.kind = .badType ∨ fault.kind = .badValue)
    (plain : fault.IsPlain) (shown : fault.shown = [value]) : fault.Refuses [value] :=
  refuses_of_shown kind plain fun _ member _ => shown ▸ member

theorem refuses_of_nil (kind : fault.kind = .badType ∨ fault.kind = .badValue)
    (plain : fault.IsPlain) (shown : fault.shown = []) : fault.Refuses values := by
  refine refuses_of_shown kind plain fun value member => ?_
  rw [shown] at member
  cases member

theorem Refuses.of_forall (refuses : fault.Refuses values)
    (within : (∀ value ∈ others, value.unshown? = none) → ∀ value ∈ values, value.unshown? = none) :
    fault.Refuses others :=
  ⟨refuses.kind, refuses.plain, fun each => refuses.raised (within each)⟩

theorem Refuses.subset (refuses : fault.Refuses values) (within : values ⊆ others) :
    fault.Refuses others :=
  refuses.of_forall fun each value member => each value (within member)

theorem Refuses.among {value : Datum} (refuses : fault.Refuses [value]) (member : value ∈ values) :
    fault.Refuses values :=
  refuses.subset fun _ same => List.mem_singleton.mp same ▸ member

/-- What is wrong with items of a list or a tuple is wrong with it. -/
theorem Refuses.of_sequence {default : Datum} {items : List Datum} (refuses : fault.Refuses values)
    (listed : default.sequence? = some items) (among : ∀ value ∈ values, value ∈ items) :
    fault.Refuses [default] := by
  refine refuses.of_forall fun each value member => ?_
  exact Datum.unshown?_of_mem listed (among value member) (each default (List.mem_singleton_self _))

/-- What is raised as it is, unless one of certain values cannot be written out, which is told of
then. -/
def IsTold (values : List Datum) (fault : Fault) : Prop :=
  fault.raised = fault ∨
    (∃ value ∈ values, value.unshown? ≠ none) ∧ ∃ obstacle : Obstacle, fault.raised = obstacle.fault

theorem isTold_of_shown (plain : fault.IsPlain) (shown : fault.shown ⊆ values) :
    fault.IsTold values := by
  rcases fault.raised_cases plain with ⟨_, same⟩ | ⟨value, member, obstacle, unshown, raised⟩
  · exact .inl same
  · exact .inr ⟨⟨value, shown member, by rw [unshown]; nofun⟩, obstacle, raised⟩

theorem IsTold.subset (told : fault.IsTold values) (within : values ⊆ others) :
    fault.IsTold others :=
  told.imp_right fun ⟨⟨value, member, unshown⟩, raised⟩ =>
    ⟨⟨value, within member, unshown⟩, raised⟩

/-- The default of a declaration is told of together with what is wrong with it. -/
theorem isTold_invalidDefault {default : Datum} {cause : Fault} (refuses : cause.Refuses [default])
    (script : String) (position : Nat) (kind : ArgKind) (label : String) :
    (invalidDefault script position kind label default cause).IsTold [default] := by
  cases shown : default.unshown? with
  | none =>
      have same := refuses.raised (List.forall_mem_singleton.mpr shown)
      have shallow : cause.kind ≠ .tooDeep := by
        rcases refuses.kind with bad | bad <;> rw [bad] <;> decide
      left
      rw [raised, same, if_neg shallow, shown]
  | some obstacle =>
      refine .inr ⟨⟨default, List.mem_singleton_self _, by rw [shown]; nofun⟩, ?_⟩
      rw [raised, shown]
      split
      next deep =>
        rcases cause.raised_cases refuses.plain with ⟨_, same⟩ | ⟨_, _, other, _, same⟩
        · rw [same] at deep
          rcases refuses.kind with bad | bad <;> cases bad.symm.trans deep
        · exact ⟨other, same⟩
      next => exact ⟨obstacle, rfl⟩

end Fault

end ScriptCatalog
