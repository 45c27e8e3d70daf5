import ScriptCatalog.Proofs.Argument.Payload
import ScriptCatalog.Proofs.Script.Changed
import ScriptCatalog.Proofs.Script.Outline

/-! What the values of an argument carry over from its default. A value is made from the default or
from the value before it; what holds between a payload and any that is made from it in one step
therefore holds between the default and every value. -/

namespace ScriptCatalog

variable [Platform]

theorem ArgKind.eq_option_of_payloadKind {kind : ArgKind} (form : kind.payloadKind = .option) :
    kind = .option := by
  cases kind <;> cases form
  rfl

theorem ArgKind.eq_enum_of_payloadKind {kind : ArgKind} (form : kind.payloadKind = .enum) :
    kind = .enum := by
  cases kind <;> cases form
  rfl

namespace Argument

variable {known : EnumTypes → Prop} {carries : Payload → Payload → Prop}

/-- An argument whose default and value have the form of its type, and whose value carries what the
default has. The default could be copied once. -/
structure Within (known : EnumTypes → Prop) (carries : Payload → Payload → Prop)
    (argument : Argument) : Prop where
  defaultForm : argument.default.kind = argument.kind.payloadKind
  valueForm : argument.value.kind = argument.kind.payloadKind
  copied : ∃ types value, known types ∧ argument.default.copy types = .ok value
  carried : carries argument.default argument.value

theorem expectPayload_eq_ok {label value : Datum} {kind : ArgKind} {held : Payload}
    (expected : expectPayload label kind value = .ok held) :
    value = .payload held ∧ held.kind = kind.payloadKind := by
  cases value with
  | payload given =>
      rw [expectPayload] at expected
      split at expected
      next form =>
        cases expected
        exact ⟨rfl, form⟩
      next => cases expected
  | _ => cases expected

theorem make_eq_ok {types : EnumTypes} {kind : ArgKind} {label default : Datum}
    {argument : Argument} (made : make types kind label default = .ok argument) :
    ∃ held value, held.kind = kind.payloadKind ∧ held.copy types = .ok value ∧
      argument = { kind, label, default := held, value } := by
  obtain ⟨held, expected, made⟩ := (Except.bind_eq_ok _ _ _).mp made
  obtain ⟨value, copied, same⟩ := (Except.bind_eq_ok _ _ _).mp made
  cases same
  exact ⟨held, value, (expectPayload_eq_ok expected).2, copied, rfl⟩

theorem within_make (inherits : Payload.Inherits known carries) {types : EnumTypes}
    (knows : known types) {kind : ArgKind} {label default : Datum} {argument : Argument}
    (made : make types kind label default = .ok argument) : argument.Within known carries := by
  obtain ⟨held, value, form, copied, rfl⟩ := make_eq_ok made
  have valueForm := Payload.kind_eq_of_fixed_eq (Payload.fixed_copy copied)
  exact ⟨form, valueForm.trans form, ⟨types, value, knows, copied⟩, inherits.copied knows copied⟩

theorem Within.mono {wider : EnumTypes → Prop} {weaker : Payload → Payload → Prop}
    (knows : ∀ types, known types → wider types)
    (implies : ∀ payload value, carries payload value → weaker payload value)
    {argument : Argument} (within : argument.Within known carries) :
    argument.Within wider weaker := by
  obtain ⟨types, value, knew, copied⟩ := within.copied
  exact ⟨within.defaultForm, within.valueForm, ⟨types, value, knows types knew, copied⟩,
    implies _ _ within.carried⟩

theorem Within.enum_of_uncopied {types : EnumTypes} {argument : Argument} {fault : Fault}
    (within : argument.Within known carries) (failed : argument.default.copy types = .error fault) :
    argument.kind.payloadKind = .enum := by
  obtain ⟨earlier, value, _, copied⟩ := within.copied
  by_contra other
  rw [← within.defaultForm] at other
  rw [Payload.copy_again copied other] at failed
  cases failed

/-- An argument followed by one of the same type, label and default that is still within. -/
structure Carries (known : EnumTypes → Prop) (carries : Payload → Payload → Prop)
    (argument changed : Argument) : Prop where
  outline : changed.outline = argument.outline
  default : changed.default = argument.default
  within : argument.Within known carries → changed.Within known carries

instance : IsPreorder Argument (Carries known carries) where
  refl _ := ⟨rfl, rfl, id⟩
  trans _ _ _ left right :=
    ⟨right.outline.trans left.outline, right.default.trans left.default, right.within ∘ left.within⟩

theorem carries_of_value {argument : Argument} {value : Payload}
    (made : argument.Within known carries →
      value.kind = argument.kind.payloadKind ∧ carries argument.default value) :
    Carries known carries argument { argument with value } where
  outline := rfl
  default := rfl
  within within :=
    { defaultForm := within.defaultForm
      valueForm := (made within).1
      copied := within.copied
      carried := (made within).2 }

theorem carries_assign {argument changed : Argument} {held : Payload}
    (allowed : argument.Within known carries → held.kind = argument.kind.payloadKind →
      carries argument.default held)
    (given : argument.assign (.payload held) = .ok changed) :
    Carries known carries argument changed := by
  obtain ⟨value, expected, same⟩ := (Except.bind_eq_ok _ _ _).mp given
  cases same
  obtain ⟨same, form⟩ := expectPayload_eq_ok expected
  cases same
  exact carries_of_value fun within => ⟨form, allowed within form⟩

theorem carries_setFromParam (inherits : Payload.Inherits known carries)
    {types : EnumTypes} {param : Datum} {argument changed : Argument} (knows : known types)
    (given : argument.setFromParam types param = .ok changed) :
    Carries known carries argument changed := by
  obtain ⟨value, updated, same⟩ := (Except.bind_eq_ok _ _ _).mp given
  cases same
  refine carries_of_value fun within => ⟨?_, ?_⟩
  · exact (Payload.kind_eq_of_fixed_eq (Payload.fixed_updated updated)).trans within.valueForm
  · exact inherits.trans within.carried (inherits.updated knows updated)

theorem carries_reset (inherits : Payload.Inherits known carries) {types : EnumTypes}
    (resetIds : Bool) (argument : Argument) (knows : known types) :
    Carries known carries argument (Act.after (reset types resetIds) argument) := by
  simp only [Act.after, reset]
  by_cases kept : (argument.kind.isItem && !resetIds) = true
  · simp only [kept, if_true, Act.stateOf]
    exact refl_of (Carries known carries) argument
  · simp only [kept]
    cases copied : argument.default.copy types with
    | ok value =>
        refine carries_of_value fun within => ⟨?_, inherits.copied knows copied⟩
        have form := Payload.kind_eq_of_fixed_eq (Payload.fixed_copy copied)
        exact form.trans within.defaultForm
    | error fault =>
        -- Only the value of an enumeration can fail to be copied again, and it has nothing to drop.
        refine carries_of_value fun within => ?_
        rw [Payload.release_of_enum (within.valueForm.trans (within.enum_of_uncopied copied))]
        exact ⟨within.valueForm, within.carried⟩

theorem admits_carries (inherits : Payload.Inherits known carries) :
    Admits known (Carries known carries) where
  updated knows given := carries_setFromParam inherits knows given
  restored resetIds argument knows := carries_reset inherits resetIds argument knows
  bound {id argument _} given := by
    refine carries_assign (fun within form => ?_) given
    have identifier : argument.value.kind = .itemId := within.valueForm.trans form.symm
    exact inherits.trans within.carried (inherits.bound id identifier)

end Argument

end ScriptCatalog
