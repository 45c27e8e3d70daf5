import ScriptCatalog.Proofs.Script.Storing

/-! The two ways of rendering agree through the store. Once the values that a command was rendered
from are stored, the command of the script is the same token for token, except that a brush passed
by name is written with all that is known of it. -/

namespace ScriptCatalog

variable [Platform]

/-- How the token of a value that was passed in is written again once the value is stored: as it
was, or as the list of a brush that keeps the name and has the rest of the brush before. -/
inductive TokenAgain (precision : Precision) : Payload → Datum → String → String → Prop
  | same (payload : Payload) (param : Datum) (word : String)
      (whole : payload.kind = .brush → param.hasType [.text, .null] = false) :
      TokenAgain precision payload param word word
  | brush (name opacity spacing paintMode param : Datum) (quoted number : String)
      (byName : param.hasType [.text, .null] = true) (asName : textToken param = .ok quoted)
      (asNumber : numberToken precision opacity = .ok number) :
      TokenAgain precision (.brush name opacity spacing paintMode) param quoted
        ("'(" ++ quoted ++ " " ++ number ++ " " ++ spacing.display ++ " " ++ paintMode.display ++
          ")")

/-- Two commands with the same tokens but for brushes that were passed by name. -/
def SameButBrushes (precision : Precision) (name : String) (slots : List (Argument × Datum))
    (command later : String) : Prop :=
  ∃ words : List (String × String),
    command = commandText name (words.map (·.1)) ∧ later = commandText name (words.map (·.2)) ∧
    List.Forall₂ (fun slot pair => TokenAgain precision slot.1.value slot.2 pair.1 pair.2)
      slots words

variable {types : EnumTypes} {precision : Precision}

/-- A brush that is written under one name is written under any other that can be written. -/
theorem brushToken_renamed {name renamed opacity spacing paintMode : Datum}
    {written quoted : String}
    (rendered : brushToken precision name opacity spacing paintMode = .ok written)
    (asName : textToken renamed = .ok quoted) :
    ∃ number, numberToken precision opacity = .ok number ∧
      brushToken precision renamed opacity spacing paintMode =
        .ok ("'(" ++ quoted ++ " " ++ number ++ " " ++ spacing.display ++ " " ++
          paintMode.display ++ ")") := by
  obtain ⟨_, _, rest⟩ := (Except.bind_eq_ok _ _ _).mp rendered
  obtain ⟨number, asNumber, rest⟩ := (Except.bind_eq_ok _ _ _).mp rest
  obtain ⟨spaced, asSpacing, rest⟩ := (Except.bind_eq_ok _ _ _).mp rest
  obtain ⟨painted, asMode, _⟩ := (Except.bind_eq_ok _ _ _).mp rest
  refine ⟨number, asNumber, ?_⟩
  simp only [brushToken, asName, asNumber, asSpacing, asMode,
    ← ((Datum.written_eq_ok_iff _ _).mp asSpacing).2, ← ((Datum.written_eq_ok_iff _ _).mp asMode).2]
  rfl

theorem token_again {payload : Payload} {param old : Datum} {word : String}
    (renders : payload.token precision = .ok old)
    (passed : payload.paramToken types precision param = .ok (.text word)) :
    ∃ value later, payload.updated types param = .ok value ∧
      value.token precision = .ok (.text later) ∧
      TokenAgain precision payload param word later := by
  rw [Payload.paramToken_eq_shown] at passed
  obtain ⟨shown, given, written⟩ := (Except.bind_eq_ok _ _ _).mp passed
  rcases Payload.updated_of_shown given with
    ⟨updated, whole⟩ | ⟨name, opacity, spacing, paintMode, rfl, byName, rfl, updated⟩
  · exact ⟨shown, word, updated, written, .same _ _ _ whole⟩
  · obtain ⟨quoted, asName, same⟩ := (Except.bind_eq_ok _ _ _).mp written
    cases same
    obtain ⟨_, listed, _⟩ := (Except.bind_eq_ok _ _ _).mp renders
    obtain ⟨number, asNumber, renamed⟩ := brushToken_renamed listed asName
    refine ⟨_, _, updated, ?_, .brush name opacity spacing paintMode param word number byName asName
      asNumber⟩
    simp only [Payload.token, renamed]
    rfl

theorem tokens_again {slots : List (Argument × Datum)} {words : List String}
    (renders : ∀ slot ∈ slots, ∃ old, slot.1.value.token precision = .ok old)
    (passed : List.Forall₂
      (fun slot word => slot.1.value.paramToken types precision slot.2 = .ok (.text word))
      slots words) :
    ∃ (stored : List Argument) (laters : List String),
      slots.mapM (fun slot => slot.1.setFromParam types slot.2) = .ok stored ∧
      storedTokens precision stored = .ok (laters.map .text) ∧ laters.length = words.length ∧
      List.Forall₂ (fun slot pair => TokenAgain precision slot.1.value slot.2 pair.1 pair.2) slots
        (words.zip laters) := by
  induction passed with
  | nil => exact ⟨[], [], rfl, rfl, rfl, .nil⟩
  | @cons slot word slots words given _ ih =>
      obtain ⟨old, rendered⟩ := renders _ List.mem_cons_self
      obtain ⟨value, later, updated, written, again⟩ := token_again rendered given
      obtain ⟨stored, laters, made, writtenOthers, sameLength, others⟩ :=
        ih fun slot member => renders slot (by simp [member])
      have set := (setFromParam_eq_ok_iff _ _ _ _).mpr ⟨value, updated, rfl⟩
      refine ⟨{ slot.1 with value } :: stored, later :: laters, ?_, ?_, by simp [sameLength],
        .cons again others⟩
      · rw [List.mapM_cons, set, made]
        rfl
      · rw [storedTokens, List.mapM_cons, written, ← storedTokens, writtenOthers]
        rfl

namespace Script

theorem command_after_storing {profile : Profile} {arguments : List Argument}
    {tokens : List Datum} {invocation : Invocation} {after : Script} {command : String}
    (renders : storedTokens precision arguments = .ok tokens)
    (ran : passedCommand types precision invocation (ofArguments profile arguments) =
      .ok command after) :
    ∃ name params stored later, profile.name = .text name ∧
      PassedParams invocation arguments params ∧
      storeParams types invocation (ofArguments profile arguments) =
        .ok () (ofArguments profile stored) ∧
      HoldParams types invocation arguments stored ∧
      Script.command precision (ofArguments profile stored) =
        .ok later (ofArguments profile stored) ∧
      SameButBrushes precision name (arguments.zip params) command later := by
  obtain ⟨_, name, _, params, words, same, named, passed, rendered, rfl⟩ := passedCommand_eq_ok ran
  obtain ⟨rfl, rfl⟩ := ofArguments_inj same
  rw [passedTokens_eq_mapM, mapM_eq_ok_iff, List.forall₂_map_right_iff] at rendered
  obtain ⟨stored, laters, made, written, sameLength, again⟩ := tokens_again
    (fun slot member => mapM_ok_of_mem renders _ (List.of_mem_zip member).1) rendered
  refine ⟨name, params, stored, commandText name laters, named, passed,
    storeParams_ofArguments profile passed made, holdParams_of_stored passed made,
    command_ofArguments precision profile stored name laters named written, words.zip laters,
    ?_, ?_, again⟩
  · rw [List.map_fst_zip (by omega)]
  · rw [List.map_snd_zip (by omega)]

end Script

end ScriptCatalog
