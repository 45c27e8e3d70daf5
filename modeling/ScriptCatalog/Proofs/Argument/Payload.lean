import ScriptCatalog.Argument.Basic
import ScriptCatalog.Proofs.Act

/-! Payloads that are made from others, by a copy or by a value that is passed in. They keep the
form and the declared properties, and a selection is among its choices when it is made. -/

namespace ScriptCatalog

variable [Platform]

namespace Payload

variable {known : EnumTypes → Prop} {types : EnumTypes} {payload value : Payload} {param : Datum}

/-- The form of a payload with those of its properties that no value passed in replaces. -/
def fixed : Payload → PayloadKind × List Datum
  | adjustment _ lower upper step page digits slider =>
      (.adjustment, [lower, upper, step, page, digits, slider])
  | option labels _ => (.option, labels)
  | enum typeName _ => (.enum, [typeName])
  | payload => (payload.kind, [])

/-- The form of a payload with what a selection is made from. -/
def choices : Payload → PayloadKind × List Datum
  | option labels _ => (.option, labels)
  | enum typeName _ => (.enum, [typeName])
  | payload => (payload.kind, [])

theorem fixed_fst (payload : Payload) : payload.fixed.1 = payload.kind := by
  cases payload <;> rfl

theorem choices_eq_fixed (payload : Payload) :
    payload.choices =
      if payload.fixed.1 = .adjustment then (.adjustment, []) else payload.fixed := by
  cases payload <;> rfl

theorem kind_eq_of_fixed_eq (same : value.fixed = payload.fixed) : value.kind = payload.kind := by
  rw [← fixed_fst, ← fixed_fst, same]

theorem choices_eq_of_fixed_eq (same : value.fixed = payload.fixed) :
    value.choices = payload.choices := by
  rw [choices_eq_fixed, choices_eq_fixed, same]

theorem fixed_itemId (id : Datum) (form : payload.kind = .itemId) :
    (itemId id).fixed = payload.fixed := by
  cases payload <;> cases form
  rfl

theorem adjustment_of_fixed_eq (same : value.fixed = payload.fixed)
    (form : payload.kind = .adjustment) :
    ∃ initial held lower upper step page digits slider,
      payload = adjustment initial lower upper step page digits slider ∧
        value = adjustment held lower upper step page digits slider := by
  cases payload <;> cases form
  cases value <;> cases same
  exact ⟨_, _, _, _, _, _, _, _, rfl, rfl⟩

theorem option_of_fixed_eq (same : value.fixed = payload.fixed) (form : payload.kind = .option) :
    ∃ labels initial selected,
      payload = option labels initial ∧ value = option labels selected := by
  cases payload <;> cases form
  cases value <;> cases same
  exact ⟨_, _, _, rfl, rfl⟩

theorem enum_of_fixed_eq (same : value.fixed = payload.fixed) (form : payload.kind = .enum) :
    ∃ typeName initial selected,
      payload = enum typeName initial ∧ value = enum typeName selected := by
  cases payload <;> cases form
  cases value <;> cases same
  exact ⟨_, _, _, rfl, rfl⟩

/-- A selection that is among its choices: the labels it comes with, or the values that one of the
known enumerations has under its name. Other payloads select nothing. -/
def Inside (known : EnumTypes → Prop) : Payload → Prop
  | option labels selected => selected < labels.length
  | enum typeName selected => ∃ types nicks, known types ∧
      types.nicks? typeName = .ok (some nicks) ∧ selected < nicks.length
  | _ => True

theorem Inside.mono {wider : EnumTypes → Prop} (knows : ∀ types, known types → wider types)
    (inside : payload.Inside known) : payload.Inside wider := by
  cases payload with
  | enum typeName selected =>
      obtain ⟨types, nicks, knew, among⟩ := inside
      exact ⟨types, nicks, knows types knew, among⟩
  | _ => exact inside

/-! Selections are checked when they are made. -/

theorem makeOption_eq_ok {labels : List Datum} {selected : Int}
    (made : makeOption labels selected = .ok value) :
    ∃ position : Nat, selected = position ∧ position < labels.length ∧
      value = option labels position := by
  obtain ⟨position, found, same⟩ := (Except.bind_eq_ok _ _ _).mp made
  cases same
  obtain ⟨selects, inside⟩ := (expectInside_eq_ok_iff _ _ _ _).mp found
  exact ⟨position, selects, inside, rfl⟩

theorem makeOption_of_lt {labels : List Datum} {selected : Nat}
    (inside : selected < labels.length) :
    makeOption labels selected = .ok (option labels selected) := by
  rw [makeOption, (expectInside_eq_ok_iff _ _ _ _).mpr ⟨rfl, inside⟩]
  rfl

theorem makeEnum_eq_ok {typeName selected : Datum}
    (made : makeEnum types typeName selected = .ok value) :
    ∃ nicks, ∃ position : Nat, types.nicks? typeName = .ok (some nicks) ∧
      selected = .int position ∧ position < nicks.length ∧ value = enum typeName position := by
  obtain ⟨found, looked, made⟩ := (Except.bind_eq_ok _ _ _).mp made
  cases found with
  | none => cases made
  | some nicks =>
      obtain ⟨index, counted, made⟩ := (Except.bind_eq_ok _ _ _).mp made
      obtain ⟨position, found, same⟩ := (Except.bind_eq_ok _ _ _).mp made
      cases same
      obtain ⟨rfl, inside⟩ := (expectInside_eq_ok_iff _ _ _ _).mp found
      cases selected with
      | int held =>
          cases counted
          exact ⟨nicks, position, looked, rfl, inside, rfl⟩
      | _ => cases counted

theorem makeEnum_of_lt {typeName : Datum} {nicks : List String} {selected : Nat}
    (known : types.nicks? typeName = .ok (some nicks)) (inside : selected < nicks.length) :
    makeEnum types typeName (.int selected) = .ok (enum typeName selected) := by
  rw [makeEnum, known]
  change expectInside selected nicks.length nicks.length >>= _ = _
  rw [(expectInside_eq_ok_iff _ _ _ _).mpr ⟨rfl, inside⟩]
  rfl

/-! What is passed in. -/

/-- A brush that is passed in whole takes the place of the brush, and a name that of its name. -/
theorem updated_brush_eq_ok {name opacity spacing paintMode : Datum}
    (given : (brush name opacity spacing paintMode).updated types param = .ok value) :
    value.kind = .brush ∧
      (param = .payload value ∨ ∃ words, value = brush words opacity spacing paintMode) := by
  rcases param with _ | _ | _ | _ | _ | _ | _ | _ | _ | _ | held
  case payload =>
    cases held <;> cases given
    exact ⟨rfl, .inl rfl⟩
  all_goals
    obtain ⟨words, _, same⟩ := (Except.bind_eq_ok _ _ _).mp given
    cases same
    exact ⟨rfl, .inr ⟨words, rfl⟩⟩

theorem fixed_updated (given : payload.updated types param = .ok value) :
    value.fixed = payload.fixed := by
  cases payload with
  | brush name opacity spacing paintMode =>
      have form := (updated_brush_eq_ok given).1
      cases value <;> cases form
      rfl
  | option labels selected =>
      obtain ⟨index, _, made⟩ := (Except.bind_eq_ok _ _ _).mp given
      obtain ⟨_, _, _, rfl⟩ := makeOption_eq_ok made
      rfl
  | enum typeName selected =>
      obtain ⟨index, _, made⟩ := (Except.bind_eq_ok _ _ _).mp given
      obtain ⟨_, _, _, _, _, rfl⟩ := makeEnum_eq_ok made
      rfl
  | _ =>
      obtain ⟨_, _, same⟩ := (Except.bind_eq_ok _ _ _).mp given
      cases same
      rfl

theorem inside_updated (knows : known types) (given : payload.updated types param = .ok value) :
    value.Inside known := by
  cases payload with
  | brush name opacity spacing paintMode =>
      have form := (updated_brush_eq_ok given).1
      cases value <;> cases form
      trivial
  | option labels selected =>
      obtain ⟨index, _, made⟩ := (Except.bind_eq_ok _ _ _).mp given
      obtain ⟨position, _, inside, rfl⟩ := makeOption_eq_ok made
      exact inside
  | enum typeName selected =>
      obtain ⟨index, _, made⟩ := (Except.bind_eq_ok _ _ _).mp given
      obtain ⟨nicks, position, looked, _, inside, rfl⟩ := makeEnum_eq_ok made
      exact ⟨types, nicks, knows, looked, inside⟩
  | _ =>
      obtain ⟨_, _, same⟩ := (Except.bind_eq_ok _ _ _).mp given
      cases same
      trivial

/-! Copies. -/

theorem fixed_copy (copied : payload.copy types = .ok value) : value.fixed = payload.fixed := by
  cases payload with
  | color shade =>
      obtain ⟨_, _, same⟩ := (Except.bind_eq_ok _ _ _).mp copied
      cases same
      rfl
  | option labels selected =>
      obtain ⟨_, _, _, rfl⟩ := makeOption_eq_ok copied
      rfl
  | enum typeName selected =>
      obtain ⟨_, _, _, _, _, rfl⟩ := makeEnum_eq_ok copied
      rfl
  | _ =>
      cases copied
      rfl

theorem inside_copy (knows : known types) (copied : payload.copy types = .ok value) :
    payload.Inside known ∧ value.Inside known := by
  cases payload with
  | color shade =>
      obtain ⟨_, _, same⟩ := (Except.bind_eq_ok _ _ _).mp copied
      cases same
      exact ⟨trivial, trivial⟩
  | option labels selected =>
      obtain ⟨position, selects, inside, rfl⟩ := makeOption_eq_ok copied
      cases Int.ofNat_inj.mp selects
      exact ⟨inside, inside⟩
  | enum typeName selected =>
      obtain ⟨nicks, position, looked, selects, inside, rfl⟩ := makeEnum_eq_ok copied
      rw [Datum.int.injEq] at selects
      cases Int.ofNat_inj.mp selects
      exact ⟨⟨types, nicks, knows, looked, inside⟩, types, nicks, knows, looked, inside⟩
  | _ =>
      cases copied
      exact ⟨trivial, trivial⟩

/-- But for the values of enumerations, what was copied once can be copied at any time. -/
theorem copy_again (copied : payload.copy types = .ok value) (other : payload.kind ≠ .enum)
    (later : EnumTypes) : payload.copy later = .ok value := by
  cases payload with
  | enum typeName selected => exact absurd rfl other
  | _ => exact copied

theorem release_of_enum (form : payload.kind = .enum) : payload.release = payload := by
  cases payload <;> cases form
  rfl

/-! What one payload carries over to the next. -/

/-- A transitive relation between a payload and any that is made from it: from a value passed in or
by a copy, both with one of the known enumerations, or, if it is an identifier, by binding another
one. -/
structure Inherits (known : EnumTypes → Prop) (carries : Payload → Payload → Prop) : Prop where
  trans : ∀ {first second third}, carries first second → carries second third → carries first third
  updated : ∀ {types payload param value}, known types →
    payload.updated types param = .ok value → carries payload value
  copied : ∀ {types payload value}, known types →
    payload.copy types = .ok value → carries payload value
  bound : ∀ {payload} id, payload.kind = .itemId → carries payload (.itemId id)

theorem inherits_inside : Inherits known fun _ value => value.Inside known where
  trans _ right := right
  updated := inside_updated
  copied knows copied := (inside_copy knows copied).2
  bound _ _ := trivial

theorem inherits_fixed : Inherits known fun payload value => value.fixed = payload.fixed where
  trans left right := right.trans left
  updated _ := fixed_updated
  copied _ := fixed_copy
  bound := fixed_itemId

theorem inherits_choices :
    Inherits known fun payload value => value.choices = payload.choices where
  trans left right := right.trans left
  updated _ given := choices_eq_of_fixed_eq (fixed_updated given)
  copied _ copied := choices_eq_of_fixed_eq (fixed_copy copied)
  bound id form := choices_eq_of_fixed_eq (fixed_itemId id form)

theorem Inherits.and {carries others : Payload → Payload → Prop} (left : Inherits known carries)
    (right : Inherits known others) :
    Inherits known fun payload value => carries payload value ∧ others payload value where
  trans first second := ⟨left.trans first.1 second.1, right.trans first.2 second.2⟩
  updated knows given := ⟨left.updated knows given, right.updated knows given⟩
  copied knows copied := ⟨left.copied knows copied, right.copied knows copied⟩
  bound id form := ⟨left.bound id form, right.bound id form⟩

end Payload

end ScriptCatalog
