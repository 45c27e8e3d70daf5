import ScriptCatalog.Proofs.Command.Rendering

/-! Storing the values of an invocation. Whatever can be rendered of an invocation can be stored,
so that storing does not stop half way through the arguments. -/

namespace ScriptCatalog

variable [Platform]

namespace Payload

variable {types : EnumTypes} {param : Datum}

theorem updated_brush_whole (name opacity spacing paintMode : Datum) (held : Payload)
    (kind : held.kind = .brush) :
    (brush name opacity spacing paintMode).updated types (.payload held) = .ok held := by
  cases held <;> cases kind
  rfl

theorem updated_brush_named (name opacity spacing paintMode : Datum)
    (text : param.hasType [.text, .null] = true) :
    (brush name opacity spacing paintMode).updated types param =
      .ok (brush param opacity spacing paintMode) := by
  rcases param.optionalText_cases text with rfl | ⟨words, rfl⟩
  · rfl
  · rfl

/-- What is shown can be stored. They differ for a brush passed by name, which is stored with what
else was known of the brush before. -/
theorem updated_of_shown {payload value : Payload} (given : payload.shown types param = .ok value) :
    payload.updated types param = .ok value ∧
        (payload.kind = .brush → param.hasType [.text, .null] = false) ∨
      ∃ name opacity spacing paintMode, payload = brush name opacity spacing paintMode ∧
        param.hasType [.text, .null] = true ∧ value = resource param ∧
        payload.updated types param = .ok (brush param opacity spacing paintMode) := by
  cases payload with
  | brush name opacity spacing paintMode =>
      rcases shown_brush_eq_ok given with ⟨held, rfl, kind, rfl⟩ | ⟨text, rfl⟩
      · exact .inl ⟨updated_brush_whole _ _ _ _ _ kind, fun _ => rfl⟩
      · exact .inr ⟨name, opacity, spacing, paintMode, rfl, text, rfl,
          updated_brush_named _ _ _ _ text⟩
  | _ => exact .inl ⟨given, nofun⟩

theorem updated_ok_of_shown {payload value : Payload}
    (given : payload.shown types param = .ok value) :
    ∃ stored, payload.updated types param = .ok stored := by
  rcases updated_of_shown given with ⟨updated, _⟩ | ⟨_, _, _, _, _, _, _, updated⟩
  · exact ⟨_, updated⟩
  · exact ⟨_, updated⟩

end Payload

def storedArguments (types : EnumTypes) (arguments : List Argument) (params : List Datum) :
    Except Fault (List Argument) :=
  (arguments.zip params).mapM fun slot => slot.1.setFromParam types slot.2

/-- Arguments that hold the values which an invocation has for them, and are as before else. -/
def HoldParams (types : EnumTypes) (invocation : Invocation)
    (arguments changed : List Argument) : Prop :=
  changed.length = arguments.length ∧
    ∀ index argument, arguments[index]? = some argument →
      ∃ param value, invocation.itemAt (index + 1) = .ok param ∧
        argument.value.updated types param = .ok value ∧
        changed[index]? = some { argument with value }

theorem setFromParam_eq_ok_iff (types : EnumTypes) (param : Datum)
    (argument stored : Argument) :
    argument.setFromParam types param = .ok stored ↔
      ∃ value, argument.value.updated types param = .ok value ∧
        stored = { argument with value } := by
  rw [Argument.setFromParam, Except.bind_eq_ok]
  refine exists_congr fun value => and_congr_right fun _ => ?_
  change Except.ok _ = Except.ok stored ↔ _
  simp [eq_comm]

theorem storedArguments_of_shown {types : EnumTypes} {arguments : List Argument}
    {params : List Datum} {values : List Payload}
    (given : shownValues types arguments params = .ok values) :
    ∃ stored, storedArguments types arguments params = .ok stored := by
  simp only [shownValues, mapM_eq_ok_iff] at given
  simp only [storedArguments, mapM_eq_ok_iff]
  generalize arguments.zip params = slots at given ⊢
  induction given with
  | nil => exact ⟨[], .nil⟩
  | cons shown _ ih =>
      obtain ⟨value, updated⟩ := Payload.updated_ok_of_shown shown
      obtain ⟨stored, others⟩ := ih
      exact ⟨_ :: stored, .cons ((setFromParam_eq_ok_iff _ _ _ _).mpr ⟨value, updated, rfl⟩) others⟩

theorem storedArguments_getElem {types : EnumTypes} {invocation : Invocation}
    {arguments stored : List Argument} {params : List Datum}
    (passed : PassedParams invocation arguments params)
    (given : storedArguments types arguments params = .ok stored) :
    stored.length = arguments.length ∧
      ∀ index (inside : index < arguments.length) (insideStored : index < stored.length),
        ∃ param, invocation.itemAt (index + 1) = .ok param ∧
          arguments[index].setFromParam types param = .ok stored[index] := by
  rw [storedArguments, mapM_eq_ok_iff, List.forall₂_iff_get] at given
  obtain ⟨sameLength, each⟩ := given
  rw [List.length_zip, passed.length_eq, Nat.min_self] at sameLength
  refine ⟨sameLength.symm, fun index inside insideStored => ?_⟩
  have insideParams : index < params.length := by
    rw [passed.length_eq]
    exact inside
  have insideZip : index < (arguments.zip params).length := by
    rw [List.length_zip]
    omega
  have changed := each index insideZip insideStored
  simp only [List.get_eq_getElem, List.getElem_zip] at changed
  exact ⟨params[index], passed.itemAt_eq index _ (List.getElem?_eq_getElem insideParams), changed⟩

theorem holdParams_of_stored {types : EnumTypes} {invocation : Invocation}
    {arguments stored : List Argument} {params : List Datum}
    (passed : PassedParams invocation arguments params)
    (given : storedArguments types arguments params = .ok stored) :
    HoldParams types invocation arguments stored := by
  obtain ⟨sameLength, each⟩ := storedArguments_getElem passed given
  refine ⟨sameLength, fun index argument held => ?_⟩
  obtain ⟨inside, rfl⟩ := List.getElem?_eq_some_iff.mp held
  have insideStored : index < stored.length := by omega
  obtain ⟨param, found, changed⟩ := each index inside insideStored
  obtain ⟨value, updated, same⟩ := (setFromParam_eq_ok_iff _ _ _ _).mp changed
  exact ⟨param, value, found, updated, by rw [List.getElem?_eq_getElem insideStored, same]⟩

namespace Script

theorem eachArgument_ok (act : Nat → Act Argument Unit) (offset : Nat)
    (arguments changed : List Argument) (sameLength : changed.length = arguments.length)
    (each : ∀ index argument next, arguments[index]? = some argument →
      changed[index]? = some next → act (offset + index) argument = .ok () next) :
    eachArgument act offset (arguments.map some) = (.ok (), changed.map some) := by
  induction arguments generalizing offset changed with
  | nil =>
      rw [List.eq_nil_of_length_eq_zero sameLength]
      rfl
  | cons argument arguments ih =>
      cases changed with
      | nil => cases sameLength
      | cons next changed =>
          have first := each 0 argument next rfl rfl
          have others := ih (offset + 1) changed (by simpa using sameLength)
            fun index argument next held given => by
              rw [Nat.add_right_comm]
              exact each (index + 1) argument next held given
          rw [Nat.add_zero] at first
          simp only [List.map_cons, eachArgument, first, others]

theorem forArguments_ok (act : Nat → Act Argument Unit) (profile : Profile) (held : Bool)
    (arguments changed : List Argument) (sameLength : changed.length = arguments.length)
    (each : ∀ index argument next, arguments[index]? = some argument →
      changed[index]? = some next → act index argument = .ok () next) :
    forArguments act (live { profile, slots := arguments.map some, held }) =
      .ok () (live { profile, slots := changed.map some, held }) := by
  have ran := eachArgument_ok act 0 arguments changed sameLength
    fun index argument next found given => by
      rw [Nat.zero_add]
      exact each index argument next found given
  refine (Act.get_bind _ _).trans ?_
  change (modify (setSlots (eachArgument act 0 (arguments.map some)).2) >>= fun _ =>
    Act.ofExcept (eachArgument act 0 (arguments.map some)).1 : ScriptAct Unit) _ = _
  rw [ran]
  rfl

theorem storeParams_ofArguments {types : EnumTypes} {invocation : Invocation}
    {arguments stored : List Argument} {params : List Datum} (profile : Profile)
    (passed : PassedParams invocation arguments params)
    (given : storedArguments types arguments params = .ok stored) :
    storeParams types invocation (ofArguments profile arguments) =
      .ok () (ofArguments profile stored) := by
  obtain ⟨sameLength, each⟩ := storedArguments_getElem passed given
  refine exclusively_ok rfl rfl ?_
  refine (Act.bind_of_ok _ (arguments_of_slots _ arguments rfl)).trans ?_
  refine forArguments_ok _ profile true arguments stored sameLength ?_
  intro index argument next held made
  obtain ⟨inside, rfl⟩ := List.getElem?_eq_some_iff.mp held
  obtain ⟨insideStored, rfl⟩ := List.getElem?_eq_some_iff.mp made
  obtain ⟨param, found, changed⟩ := each index inside insideStored
  simp only [found, Act.ofExcept]
  change (Act.ofExcept (arguments[index].setFromParam types param) >>= set :
    Act Argument Unit) _ = _
  rw [changed]
  rfl

/-- A script that holds the values which an invocation has for it, and is as it was before else. -/
def HoldsParams (types : EnumTypes) (invocation : Invocation) (before after : Script) : Prop :=
  ∃ profile arguments changed, before = ofArguments profile arguments ∧
    after = ofArguments profile changed ∧ HoldParams types invocation arguments changed

theorem storeParams_of_passedCommand {types : EnumTypes} {precision : Precision}
    {invocation : Invocation} {script after : Script} {command : String}
    (ran : passedCommand types precision invocation script = .ok command after) :
    ∃ stored, storeParams types invocation script = .ok () stored ∧
      HoldsParams types invocation script stored := by
  obtain ⟨profile, name, arguments, params, words, rfl, _, passed, rendered, _⟩ :=
    passedCommand_eq_ok ran
  obtain ⟨values, shown, _⟩ := (passedTokens_eq_ok_iff _ _ _ _ _).mp rendered
  obtain ⟨changed, given⟩ := storedArguments_of_shown shown
  exact ⟨ofArguments profile changed, storeParams_ofArguments profile passed given,
    profile, arguments, changed, rfl, rfl, holdParams_of_stored passed given⟩

end Script

end ScriptCatalog
