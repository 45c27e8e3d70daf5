import ScriptCatalog.Proofs.Argument.Carried
import ScriptCatalog.Proofs.Script.Declaration
import ScriptCatalog.Proofs.Script.Leading

/-! Identifiers of images, items and displays. What is passed in must have a number for one; what is
bound may have anything that a host lets through, and a command shows it as it is. -/

namespace ScriptCatalog

variable [Platform]

/-- Decimal digits, with a minus sign before them or not. -/
def IsNumeral (word : String) : Prop :=
  ∃ digits, digits ≠ [] ∧ (∀ c ∈ digits, c.isDigit = true) ∧
    (word.toList = digits ∨ word.toList = '-' :: digits)

theorem isNumeral_intText (value : Int) : IsNumeral (toString value) := by
  have digits (count : Nat) : ∀ c ∈ Nat.toDigits 10 count, c.isDigit = true :=
    fun _ => Nat.isDigit_of_mem_toDigits (by decide) (by decide)
  rw [Int.toString_eq_repr, Int.repr_eq_if]
  split
  · exact ⟨_, Nat.toDigits_ne_nil, digits _, .inl Nat.toList_repr⟩
  · refine ⟨Nat.toDigits 10 (-value).toNat, Nat.toDigits_ne_nil, digits _, .inr ?_⟩
    rw [String.toList_append, Nat.toList_repr]
    rfl

theorem not_isNumeral_true : ¬IsNumeral "True" := by
  rintro ⟨digits, _, each, same | same⟩
  · exact absurd (each 'T' (same ▸ by decide)) (by decide)
  · cases same

/-- What a host lets through for an identifier: a number or nothing, and a truth value where truth
values pass for numbers. -/
def Datum.IsIdentifier (truths : Bool) : Datum → Prop
  | .int _ | .null => True
  | .bool _ => truths = true
  | _ => False

/-- What a command shows of an identifier: a numeral, unless truth values pass for numbers. -/
def IsIdWord (truths : Bool) (word : String) : Prop :=
  IsNumeral word ∨ truths = true ∧ (word = "True" ∨ word = "False")

variable {truths : Bool}

theorem isIdWord_of_idToken {id : Datum} {word : String} (identifier : id.IsIdentifier truths)
    (rendered : idToken id = .ok word) : IsIdWord truths word := by
  cases id with
  | null =>
      cases ((Datum.written_eq_ok_iff _ _).mp rendered).2
      exact .inl (isNumeral_intText noItemId)
  | int number =>
      cases ((Datum.written_eq_ok_iff _ _).mp rendered).2
      exact .inl (isNumeral_intText number)
  | bool value =>
      cases rendered
      refine .inr ⟨identifier, ?_⟩
      cases value with
      | true => exact .inl rfl
      | false => exact .inr rfl
  | _ => exact identifier.elim

/-- The references in an invocation have identifiers that a host lets through. -/
def Invocation.Refers (truths : Bool) (invocation : Invocation) : Prop :=
  ∀ position passed id, invocation.itemAt position = .ok (.object passed id) →
    id.IsIdentifier truths

/-! Arguments. -/

namespace Argument

variable {argument changed : Argument}

/-- An argument that, if it is for an image, an item or a display, has a number for a default and
an identifier for a value. -/
def Identified (truths : Bool) (argument : Argument) : Prop :=
  argument.kind.isItem = true → ∃ number id, argument.default = .itemId (.int number) ∧
    argument.value = .itemId id ∧ id.IsIdentifier truths

/-- An argument followed by one of the same type that is still identified. -/
structure StaysIdentified (truths : Bool) (argument changed : Argument) : Prop where
  kind : changed.kind = argument.kind
  identified : argument.Identified truths → changed.Identified truths

instance : IsPreorder Argument (StaysIdentified truths) where
  refl _ := ⟨rfl, id⟩
  trans _ _ _ left right := ⟨right.kind.trans left.kind, right.identified ∘ left.identified⟩

theorem staysIdentified_of_value {value : Payload}
    (made : ∀ number id, argument.default = .itemId (.int number) → argument.value = .itemId id →
      ∃ next, value = .itemId next ∧ next.IsIdentifier truths) :
    StaysIdentified truths argument { argument with value } where
  kind := rfl
  identified identified item := by
    obtain ⟨number, id, default, held, _⟩ := identified item
    obtain ⟨next, same, identifier⟩ := made number id default held
    exact ⟨number, next, default, same, identifier⟩

theorem staysIdentified_reset (types : EnumTypes) (resetIds : Bool) (argument : Argument) :
    StaysIdentified truths argument (Act.after (reset types resetIds) argument) := by
  simp only [Act.after, reset]
  by_cases kept : (argument.kind.isItem && !resetIds) = true
  · simp only [kept, if_true, Act.stateOf]
    exact refl_of (StaysIdentified truths) argument
  · simp only [kept]
    cases copied : argument.default.copy types with
    | ok value =>
        refine staysIdentified_of_value fun number id default _ => ?_
        rw [default] at copied
        cases copied
        exact ⟨_, rfl, trivial⟩
    | error fault =>
        refine staysIdentified_of_value fun number id default _ => ?_
        rw [default] at copied
        cases copied

theorem updates_identified : Updates (fun _ => True) (StaysIdentified truths) where
  updated {types param argument changed} _ given := by
    obtain ⟨value, updated, same⟩ := (Except.bind_eq_ok _ _ _).mp given
    cases same
    refine staysIdentified_of_value fun number id _ held => ?_
    rw [held] at updated
    obtain ⟨passed, _, same⟩ := (Except.bind_eq_ok _ _ _).mp updated
    cases same
    exact ⟨_, rfl, trivial⟩
  restored {types} resetIds argument _ := staysIdentified_reset types resetIds argument

theorem binding_identified {invocation : Invocation} (refers : invocation.Refers truths) :
    AdmitsBinding invocation (StaysIdentified truths) := by
  intro position param kind id argument changed given bound assigned
  obtain ⟨⟨passed, rfl⟩, _⟩ := boundId?_eq_some bound
  obtain ⟨value, expected, same⟩ := (Except.bind_eq_ok _ _ _).mp assigned
  cases same
  cases (expectPayload_eq_ok expected).1
  exact staysIdentified_of_value fun _ _ _ _ => ⟨id, rfl, refers position passed id given⟩

end Argument

/-! Tokens. -/

/-- A text for each of several arguments that shows an identifier where the argument has one. -/
def IdWords (truths : Bool) (arguments : List Argument) (words : List String) : Prop :=
  List.Forall₂ (fun kind word => kind.isItem = true → IsIdWord truths word)
    (arguments.map (·.kind)) words

section

variable {arguments : List Argument} {words : List String}
  (identified : ∀ argument ∈ arguments, argument.Identified truths)

include identified

theorem idWords_stored {precision : Precision}
    (rendered : storedTokens precision arguments = .ok (words.map .text)) :
    IdWords truths arguments words := by
  rw [IdWords, List.forall₂_map_left_iff]
  refine forall₂_of_storedTokens (fun argument member word shown item => ?_) rendered
  obtain ⟨number, id, _, held, identifier⟩ := identified argument member item
  rw [held] at shown
  obtain ⟨_, rendered, same⟩ := (Except.bind_eq_ok _ _ _).mp shown
  cases same
  exact isIdWord_of_idToken identifier rendered

theorem idWords_passed {types : EnumTypes} {precision : Precision} {params : List Datum}
    (sameLength : params.length = arguments.length)
    (rendered : passedTokens types precision arguments params = .ok (words.map .text)) :
    IdWords truths arguments words := by
  rw [IdWords, List.forall₂_map_left_iff]
  refine forall₂_of_passedTokens sameLength (fun slot member word shown item => ?_) rendered
  obtain ⟨number, id, _, held, _⟩ := identified slot.1 (List.of_mem_zip member).1 item
  rw [held] at shown
  obtain ⟨value, updated, token⟩ := (Except.bind_eq_ok _ _ _).mp shown
  obtain ⟨passed, _, same⟩ := (Except.bind_eq_ok _ _ _).mp updated
  cases same
  obtain ⟨_, rendered, same⟩ := (Except.bind_eq_ok _ _ _).mp token
  cases same
  exact isIdWord_of_idToken (show Datum.IsIdentifier truths (.int passed) from trivial) rendered

end

theorem identified_of_declares {types : EnumTypes} {declaration : Datum} {argument : Argument}
    (declared : Registration.Declares types declaration argument) :
    argument.Identified truths := by
  cases declared with
  | @intro token default kind label held _ _ accepted =>
      intro item
      rw [(ArgKind.isItem_iff kind).mp item] at accepted
      cases accepted with
      | noItem => exact ⟨_, _, rfl, rfl, trivial⟩
      | item id => exact ⟨_, _, rfl, rfl, trivial⟩

/-! Passing a reference in for an argument. -/

namespace Script

/-- What passing a reference in does for an argument of a script: it stores the number of the
reference, and fails without a change if that has none. -/
def PassesReference (types : EnumTypes) (profile : Profile) (arguments : List Argument)
    (index : Nat) (argument : Argument) (passed : HostKind) (id : Datum) : Prop :=
  (∀ number, id = .int number →
    setFromParam types (.int index) (.object passed id) (ofArguments profile arguments) =
      .ok (.itemId id)
        (ofArguments profile (arguments.set index { argument with value := .itemId id }))) ∧
  ((∀ number, id ≠ .int number) →
    setFromParam types (.int index) (.object passed id) (ofArguments profile arguments) =
      .error (.notItem (.object passed id)) (ofArguments profile arguments))

theorem passesReference (types : EnumTypes) (profile : Profile) {arguments : List Argument}
    {index : Nat} {argument : Argument} (there : arguments[index]? = some argument)
    (small : (index : Int) < indexLimit) (form : argument.value.kind = .itemId)
    (passed : HostKind) (id : Datum) :
    PassesReference types profile arguments index argument passed id := by
  obtain ⟨inside, rfl⟩ := List.getElem?_eq_some_iff.mp there
  have found : argumentAt (.int index) (ofArguments profile arguments) =
      .ok (index, arguments[index]) (ofArguments profile arguments) :=
    argumentAt_inside _ arguments rfl index inside small
  obtain ⟨held, holds⟩ : ∃ held, arguments[index].value = .itemId held := by
    cases held : arguments[index].value with
    | itemId id => exact ⟨id, rfl⟩
    | _ =>
        rw [held] at form
        cases form
  constructor
  · rintro number rfl
    have given : arguments[index].setFromParam types (.object passed (.int number)) =
        .ok { arguments[index] with value := .itemId (.int number) } := by
      rw [Argument.setFromParam, holds]
      rfl
    refine (replaceArgument_of_ok found given).trans ?_
    rw [ofArguments, ofArguments, List.map_set]
    rfl
  · intro other
    refine replaceArgument_of_error found ?_
    rw [Argument.setFromParam, holds]
    cases id with
    | int number => exact absurd rfl (other number)
    | _ => rfl

/-- A reference that binding takes for an argument can be passed in for it too, with the same
effect, if it has a number. Otherwise passing it in fails and changes nothing. -/
theorem reference_bound_and_passed (types : EnumTypes) {profile : Profile}
    {invocation : Invocation} {items : List Datum} (named : profile.name.isNull = false)
    (listed : invocation.itemsByPosition 1 = .ok items) {arguments : List Argument}
    (typed : ∀ argument ∈ arguments, argument.value.kind = argument.kind.payloadKind) :
    ∃ count changed, bindStandard invocation (ofArguments profile arguments) =
        .ok count (ofArguments profile changed) ∧
      ∀ index argument, index < count → arguments[index]? = some argument →
        ∃ passed id, argument.kind.isItem = true ∧
          items[index + 1]? = some (.object passed id) ∧
          changed[index]? = some { argument with value := .itemId id } ∧
          PassesReference types profile arguments index argument passed id ∧
          PassesReference types profile changed index argument passed id := by
  obtain ⟨count, changed, ran, greatest, binds⟩ := bindStandard_greatest named listed arguments
  refine ⟨count, changed, ran, fun index argument below there => ?_⟩
  obtain ⟨passed, id, given, held⟩ := binds.bound index argument there below
  obtain ⟨kinds, passes⟩ := greatest.1.passes below
  have form := (boundId?_eq_some (passes.boundId?_eq there given)).2
  have small : (index : Int) < indexLimit := by
    have three : count ≤ 3 := greatest.1.bounds.1
    have room : (3 : Int) < indexLimit := by decide
    omega
  have before := (typed argument (List.mem_of_getElem? there)).trans form
  exact ⟨passed, id, (ArgKind.isItem_iff _).mpr form, given, held,
    passesReference types profile there small before passed id,
    passesReference types profile held small rfl passed id⟩

end Script

end ScriptCatalog
