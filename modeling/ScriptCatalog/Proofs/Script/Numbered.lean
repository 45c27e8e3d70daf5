import ScriptCatalog.Proofs.Argument.Carried
import ScriptCatalog.Proofs.Command.Rendering
import ScriptCatalog.Proofs.Number.Placed
import ScriptCatalog.Proofs.Script.Declaration

/-! The numbers of adjustments and brushes. Which numbers those are is up to whoever declares them,
passes them in or assigns them, and a command shows them with the decimal places asked for. -/

namespace ScriptCatalog

variable [Platform]

variable {allowed : Binary64 → Prop}

/-! Payloads. -/

namespace Payload

/-- What a payload holds that is written as a number. -/
def number? : Payload → Option Datum
  | adjustment value .. => some value
  | brush _ opacity .. => some opacity
  | _ => none

/-- What a payload holds that is written as a number is an allowed one, if it is a number. -/
def HoldsAllowed (allowed : Binary64 → Prop) (payload : Payload) : Prop :=
  ∀ value ∈ payload.number?, ∀ number, realNumber value = .ok number → allowed number

end Payload

/-- The number that a value is when it is passed in is allowed, and so is that of a payload. -/
structure Datum.Brings (allowed : Binary64 → Prop) (param : Datum) : Prop where
  number : ∀ number, Payload.paramNumber param = .ok number → allowed number
  payload : ∀ held, param = .payload held → held.HoldsAllowed allowed

/-- What an invocation has at any position brings allowed numbers. -/
def Invocation.Brings (allowed : Binary64 → Prop) (invocation : Invocation) : Prop :=
  ∀ position param, invocation.itemAt position = .ok param → Datum.Brings allowed param

namespace Payload

variable {types : EnumTypes} {payload value : Payload} {param : Datum}

theorem holdsAllowed_of_number?_eq (same : value.number? = payload.number?)
    (holds : payload.HoldsAllowed allowed) : value.HoldsAllowed allowed := by
  rw [HoldsAllowed, same]
  exact holds

theorem holdsAllowed_of_kind (notAdjustment : value.kind ≠ .adjustment)
    (notBrush : value.kind ≠ .brush) : value.HoldsAllowed allowed := by
  cases value with
  | adjustment => exact absurd rfl notAdjustment
  | brush => exact absurd rfl notBrush
  | _ => nofun

theorem number?_copy (copied : payload.copy types = .ok value) :
    value.number? = payload.number? := by
  have form := kind_eq_of_fixed_eq (fixed_copy copied)
  cases payload with
  | color | option | enum =>
      cases value <;> cases form
      rfl
  | _ =>
      cases copied
      rfl

theorem number?_release (payload : Payload) : payload.release.number? = payload.number? := by
  cases payload <;> rfl

theorem holdsAllowed_updated (holds : payload.HoldsAllowed allowed)
    (brings : param.Brings allowed) (given : payload.updated types param = .ok value) :
    value.HoldsAllowed allowed := by
  have form := kind_eq_of_fixed_eq (fixed_updated given)
  cases payload with
  | adjustment held lower upper step page digits slider =>
      obtain ⟨number, passed, same⟩ := (Except.bind_eq_ok _ _ _).mp given
      cases same
      rintro _ ⟨⟩ _ ⟨⟩
      exact brings.number number passed
  | brush name opacity spacing paintMode =>
      rcases (updated_brush_eq_ok given).2 with rfl | ⟨words, rfl⟩
      · exact brings.payload value rfl
      · exact holdsAllowed_of_number?_eq rfl holds
  | _ => exact holdsAllowed_of_kind (form ▸ nofun) (form ▸ nofun)

end Payload

/-! Arguments. -/

namespace Argument

variable {argument changed : Argument}

/-- An argument whose default and value have the form of its type and allowed numbers. -/
structure Numbered (allowed : Binary64 → Prop) (argument : Argument) : Prop where
  defaultForm : argument.default.kind = argument.kind.payloadKind
  valueForm : argument.value.kind = argument.kind.payloadKind
  default : argument.default.HoldsAllowed allowed
  value : argument.value.HoldsAllowed allowed

/-- An argument followed by one of the same type whose numbers are still allowed. -/
structure StaysNumbered (allowed : Binary64 → Prop) (argument changed : Argument) : Prop where
  kind : changed.kind = argument.kind
  numbered : argument.Numbered allowed → changed.Numbered allowed

instance : IsPreorder Argument (StaysNumbered allowed) where
  refl _ := ⟨rfl, id⟩
  trans _ _ _ left right := ⟨right.kind.trans left.kind, right.numbered ∘ left.numbered⟩

theorem staysNumbered_of_value {value : Payload}
    (made : argument.Numbered allowed →
      value.kind = argument.kind.payloadKind ∧ value.HoldsAllowed allowed) :
    StaysNumbered allowed argument { argument with value } where
  kind := rfl
  numbered numbered :=
    { defaultForm := numbered.defaultForm
      valueForm := (made numbered).1
      default := numbered.default
      value := (made numbered).2 }

theorem staysNumbered_setFromParam {types : EnumTypes} {param : Datum}
    (brings : param.Brings allowed) (given : argument.setFromParam types param = .ok changed) :
    StaysNumbered allowed argument changed := by
  obtain ⟨value, updated, same⟩ := (Except.bind_eq_ok _ _ _).mp given
  cases same
  refine staysNumbered_of_value fun numbered => ⟨?_, ?_⟩
  · exact (Payload.kind_eq_of_fixed_eq (Payload.fixed_updated updated)).trans numbered.valueForm
  · exact Payload.holdsAllowed_updated numbered.value brings updated

theorem staysNumbered_assign {value : Datum} (brings : value.Brings allowed)
    (given : argument.assign value = .ok changed) : StaysNumbered allowed argument changed := by
  obtain ⟨held, expected, same⟩ := (Except.bind_eq_ok _ _ _).mp given
  cases same
  obtain ⟨passed, form⟩ := expectPayload_eq_ok expected
  exact staysNumbered_of_value fun _ => ⟨form, brings.payload held passed⟩

theorem staysNumbered_reset (types : EnumTypes) (resetIds : Bool) (argument : Argument) :
    StaysNumbered allowed argument (Act.after (reset types resetIds) argument) := by
  simp only [Act.after, reset]
  by_cases kept : (argument.kind.isItem && !resetIds) = true
  · simp only [kept, if_true, Act.stateOf]
    exact refl_of (StaysNumbered allowed) argument
  · simp only [kept]
    cases copied : argument.default.copy types with
    | ok value =>
        refine staysNumbered_of_value fun numbered => ⟨?_, ?_⟩
        · have form := Payload.kind_eq_of_fixed_eq (Payload.fixed_copy copied)
          exact form.trans numbered.defaultForm
        · exact Payload.holdsAllowed_of_number?_eq (Payload.number?_copy copied) numbered.default
    | error fault =>
        refine staysNumbered_of_value fun numbered => ⟨?_, ?_⟩
        · exact (Payload.kind_release argument.value).trans numbered.valueForm
        · exact Payload.holdsAllowed_of_number?_eq (Payload.number?_release _) numbered.value

theorem binding_numbered (invocation : Invocation) :
    AdmitsBinding invocation (StaysNumbered allowed) := by
  intro position param kind id argument changed _ _ assigned
  refine staysNumbered_assign ⟨fun number passed => ?_, ?_⟩ assigned
  · cases passed
  · rintro _ ⟨⟩
    exact Payload.holdsAllowed_of_kind nofun nofun

theorem numbered_of_declares {types : EnumTypes} {declaration : Datum}
    (declared : Registration.Declares types declaration argument)
    (allows : argument.default.HoldsAllowed allowed) : argument.Numbered allowed := by
  cases declared with
  | intro parts typed accepted =>
      have form := Payload.kind_of_accepts accepted
      exact ⟨form, form, allows, allows⟩

end Argument

/-! Words of a command. -/

/-- A word that shows an allowed number with so many decimal places: in decimal if it is finite, and
by a name otherwise. -/
structure Shows (allowed : Binary64 → Prop) (places : Nat) (word : List Char)
    (number : Binary64) : Prop where
  admitted : allowed number
  written : word = number.fixed places
  decimal : IsDecimal places word ↔ number.isFinite = true
  named : number.isFinite = false → word ∈ Binary64.names

theorem shows_fixed {places : Nat} (positive : 0 < places) {number : Binary64}
    (admitted : allowed number) : Shows allowed places (number.fixed places) number :=
  ⟨admitted, rfl, Binary64.isDecimal_fixed_iff positive number,
    fun notFinite => Binary64.fixed_mem_names notFinite places⟩

/-- A word for a payload of a form: an adjustment shows a number, and so does a brush within a list.
A brush that is passed in by name shows that name alone. -/
inductive WritesNumber (allowed : Binary64 → Prop) (places : Nat) (passed : Bool) :
    PayloadKind → String → Prop
  | adjustment {word : String} {number : Binary64}
      (shows : Shows allowed places word.toList number) :
      WritesNumber allowed places passed .adjustment word
  | brush {name : Datum} {quoted word spacing paintMode : String} {number : Binary64}
      (named : textToken name = .ok quoted) (shows : Shows allowed places word.toList number) :
      WritesNumber allowed places passed .brush
        ("'(" ++ quoted ++ " " ++ word ++ " " ++ spacing ++ " " ++ paintMode ++ ")")
  | brushName {name : Datum} {quoted : String} (byName : passed = true)
      (named : textToken name = .ok quoted) : WritesNumber allowed places passed .brush quoted
  | other {form : PayloadKind} {word : String} (notAdjustment : form ≠ .adjustment)
      (notBrush : form ≠ .brush) : WritesNumber allowed places passed form word

namespace Payload

variable {places : Nat} {passed : Bool} {payload : Payload} {word : String}

theorem numberToken_eq_ok {value : Datum}
    (rendered : numberToken (.places places) value = .ok word) :
    ∃ number, realNumber value = .ok number ∧ word = String.ofList (number.fixed places) := by
  obtain ⟨count, counted, rendered⟩ := (Except.bind_eq_ok _ _ _).mp rendered
  obtain ⟨number, read, same⟩ := (Except.bind_eq_ok _ _ _).mp rendered
  cases same
  refine ⟨number, read, ?_⟩
  simp only [Precision.count] at counted
  split at counted
  next =>
    cases counted
    rfl
  next => cases counted

theorem shows_of_numberToken (positive : 0 < places) {value : Datum}
    (rendered : numberToken (.places places) value = .ok word)
    (allows : ∀ number, realNumber value = .ok number → allowed number) :
    ∃ number, Shows allowed places word.toList number := by
  obtain ⟨number, read, rfl⟩ := numberToken_eq_ok rendered
  rw [String.toList_ofList]
  exact ⟨number, shows_fixed positive (allows number read)⟩

theorem writesNumber_token (positive : 0 < places) (holds : payload.HoldsAllowed allowed)
    (rendered : payload.token (.places places) = .ok (.text word)) :
    WritesNumber allowed places passed payload.kind word := by
  cases payload with
  | adjustment value lower upper step page digits slider =>
      obtain ⟨written, numeric, same⟩ := (Except.bind_eq_ok _ _ _).mp rendered
      cases same
      obtain ⟨number, shows⟩ := shows_of_numberToken positive numeric (holds value rfl)
      exact .adjustment shows
  | brush name opacity spacing paintMode =>
      obtain ⟨written, listed, same⟩ := (Except.bind_eq_ok _ _ _).mp rendered
      cases same
      obtain ⟨quoted, named, listed⟩ := (Except.bind_eq_ok _ _ _).mp listed
      obtain ⟨written, numeric, listed⟩ := (Except.bind_eq_ok _ _ _).mp listed
      obtain ⟨_, _, listed⟩ := (Except.bind_eq_ok _ _ _).mp listed
      obtain ⟨_, _, same⟩ := (Except.bind_eq_ok _ _ _).mp listed
      cases same
      obtain ⟨number, shows⟩ := shows_of_numberToken positive numeric (holds opacity rfl)
      exact .brush named shows
  | _ => exact .other nofun nofun

theorem writesNumber_paramToken (positive : 0 < places) {types : EnumTypes} {param : Datum}
    (holds : payload.HoldsAllowed allowed) (brings : param.Brings allowed)
    (rendered : payload.paramToken types (.places places) param = .ok (.text word)) :
    WritesNumber allowed places true payload.kind word := by
  rw [paramToken_eq_shown] at rendered
  obtain ⟨value, given, shown⟩ := (Except.bind_eq_ok _ _ _).mp rendered
  have updates (updated : payload.updated types param = .ok value) :
      WritesNumber allowed places true payload.kind word := by
    rw [← kind_eq_of_fixed_eq (fixed_updated updated)]
    exact writesNumber_token positive (holdsAllowed_updated holds brings updated) shown
  cases payload with
  | brush name opacity spacing paintMode =>
      rcases shown_brush_eq_ok given with ⟨held, rfl, form, rfl⟩ | ⟨text, rfl⟩
      · have written : WritesNumber allowed places true value.kind word :=
          writesNumber_token positive (brings.payload value rfl) shown
        rw [form] at written
        exact written
      · obtain ⟨quoted, named, same⟩ := (Except.bind_eq_ok _ _ _).mp shown
        cases same
        exact .brushName rfl named
  | _ => exact updates given

end Payload

/-- A text for each of several arguments, which shows its number if it has one. -/
def NumberWords (allowed : Binary64 → Prop) (places : Nat) (passed : Bool)
    (arguments : List Argument) (words : List String) : Prop :=
  List.Forall₂ (fun kind word => WritesNumber allowed places passed kind.payloadKind word)
    (arguments.map (·.kind)) words

section

variable {places : Nat} (positive : 0 < places) {arguments : List Argument} {words : List String}
  (numbered : ∀ argument ∈ arguments, argument.Numbered allowed)

include positive numbered

theorem numberWords_stored
    (rendered : storedTokens (.places places) arguments = .ok (words.map .text)) :
    NumberWords allowed places false arguments words := by
  rw [NumberWords, List.forall₂_map_left_iff]
  refine forall₂_of_storedTokens (fun argument member word shown => ?_) rendered
  rw [← (numbered argument member).valueForm]
  exact Payload.writesNumber_token positive (numbered argument member).value shown

theorem numberWords_passed {types : EnumTypes} {params : List Datum}
    (sameLength : params.length = arguments.length)
    (brings : ∀ param ∈ params, param.Brings allowed)
    (rendered : passedTokens types (.places places) arguments params = .ok (words.map .text)) :
    NumberWords allowed places true arguments words := by
  rw [NumberWords, List.forall₂_map_left_iff]
  refine forall₂_of_passedTokens sameLength (fun slot member word shown => ?_) rendered
  obtain ⟨argument, param⟩ := List.of_mem_zip member
  have numbered := numbered slot.1 argument
  rw [← numbered.valueForm]
  exact Payload.writesNumber_paramToken positive numbered.value (brings slot.2 param) shown

end

theorem numberWords_of_kinds {places : Nat} {passed : Bool} {arguments others : List Argument}
    {words : List String} (same : others.map (·.kind) = arguments.map (·.kind))
    (written : NumberWords allowed places passed others words) :
    NumberWords allowed places passed arguments words := by
  rw [NumberWords, ← same]
  exact written

end ScriptCatalog
