import ScriptCatalog.Proofs.Command.Token
import ScriptCatalog.Proofs.Script.Access
import ScriptCatalog.Script.Command

/-! Rendering commands, from the values that a script holds and from those of an invocation. Both
ways the command is a name and one text for each argument, and the script is left as it is. -/

namespace ScriptCatalog

variable [Platform]

/-! Texts that are joined. -/

theorem expectTexts_map_text (index : Nat) (words : List String) :
    Datum.expectTexts index (words.map .text) = .ok words := by
  induction words generalizing index with
  | nil => rfl
  | cons word words ih =>
      rw [List.map_cons, Datum.expectTexts, ih]
      rfl

theorem expectTexts_eq_ok (index : Nat) (items : List Datum) (words : List String)
    (found : Datum.expectTexts index items = .ok words) : items = words.map .text := by
  induction items generalizing index words with
  | nil =>
      cases found
      rfl
  | cons item items ih =>
      cases item with
      | text word =>
          obtain ⟨others, rest, joined⟩ := (Except.bind_eq_ok _ _ _).mp found
          cases joined
          rw [ih (index + 1) others rest]
          rfl
      | _ => cases found

def commandText (name : String) (words : List String) : String :=
  "(" ++ " ".intercalate (name :: words) ++ ")"

theorem toList_intercalate_words (name : String) (words : List String) :
    (" ".intercalate (name :: words)).toList =
      name.toList ++ words.flatMap fun word => ' ' :: word.toList := by
  induction words generalizing name with
  | nil => simp
  | cons word words ih =>
      rw [String.intercalate_cons_cons, String.toList_append, ih]
      simp

theorem toList_commandText (name : String) (words : List String) :
    (commandText name words).toList =
      '(' :: name.toList ++ (words.flatMap fun word => ' ' :: word.toList) ++ [')'] := by
  rw [commandText, String.toList_append, String.toList_append, toList_intercalate_words]
  simp

theorem formatCommand_texts (name : String) (words : List String) :
    formatCommand (.text name) (words.map .text) = .ok (commandText name words) := by
  have joined := expectTexts_map_text 0 (name :: words)
  rw [List.map_cons] at joined
  rw [formatCommand, joined]
  rfl

theorem formatCommand_eq_ok (name : Datum) (tokens : List Datum) (command : String)
    (found : formatCommand name tokens = .ok command) :
    ∃ named words, name = .text named ∧ tokens = words.map .text ∧
      command = commandText named words := by
  obtain ⟨texts, joined, same⟩ := (Except.bind_eq_ok _ _ _).mp found
  cases same
  have all := expectTexts_eq_ok 0 _ _ joined
  cases texts with
  | nil => cases all
  | cons named words =>
      rw [List.map_cons, List.cons.injEq] at all
      exact ⟨named, words, all.1, all.2, rfl⟩

/-! The values of an invocation. -/

theorem itemAt_eq_ok_iff (invocation : Invocation) (index : Nat) (item : Datum) :
    invocation.itemAt index = .ok item ↔
      ∃ items, invocation.itemsByPosition index = .ok items ∧ items[index]? = some item := by
  rw [Datum.itemAt, Except.bind_eq_ok]
  refine exists_congr fun items => and_congr_right fun _ => ?_
  cases items[index]? with
  | none =>
      change Except.error Fault.noSuchArgument = .ok item ↔ none = some item
      simp
  | some found =>
      change Except.ok found = .ok item ↔ some found = some item
      simp

theorem itemsByPosition_ok {invocation : Invocation} {asked : Nat} {items : List Datum}
    (found : invocation.itemsByPosition asked = .ok items) :
    invocation.size = .ok items.length ∧
      ∀ other, invocation.itemsByPosition other = .ok items := by
  cases invocation with
  | text words =>
      cases found
      refine ⟨?_, fun _ => rfl⟩
      rw [List.length_map, String.length_toList]
      rfl
  | list listed =>
      cases found
      exact ⟨rfl, fun _ => rfl⟩
  | tuple listed =>
      cases found
      exact ⟨rfl, fun _ => rfl⟩
  | _ => cases found

/-- The values that an invocation has for arguments, one for each of them. -/
structure PassedParams (invocation : Invocation) (arguments : List Argument)
    (params : List Datum) : Prop where
  length_eq : params.length = arguments.length
  itemAt_eq : ∀ index param, params[index]? = some param →
    invocation.itemAt (index + 1) = .ok param

theorem PassedParams.eq_take {invocation : Invocation} {arguments : List Argument}
    {params items : List Datum} (passed : PassedParams invocation arguments params)
    (listed : invocation.itemsByPosition 0 = .ok items) :
    params = items.tail.take arguments.length := by
  have held (index : Nat) (param : Datum) (found : params[index]? = some param) :
      items.tail[index]? = some param := by
    have given := passed.itemAt_eq index param found
    obtain ⟨others, again, inside⟩ := (itemAt_eq_ok_iff _ _ _).mp given
    rw [(itemsByPosition_ok listed).2] at again
    cases again
    rw [List.getElem?_tail, inside]
  refine List.ext_getElem? fun index => ?_
  rw [List.getElem?_take, ← passed.length_eq]
  by_cases inside : index < params.length
  · rw [if_pos inside, held index params[index] (List.getElem?_eq_getElem inside),
      List.getElem?_eq_getElem inside]
  · rw [if_neg inside, List.getElem?_eq_none (by omega)]

theorem passedTokens_eq_mapM (types : EnumTypes) (precision : Precision)
    (arguments : List Argument) (params : List Datum) :
    passedTokens types precision arguments params =
      (arguments.zip params).mapM fun slot => slot.1.value.paramToken types precision slot.2 := by
  induction arguments generalizing params with
  | nil => rfl
  | cons argument arguments ih =>
      cases params with
      | nil => rfl
      | cons param params =>
          rw [passedTokens, ih, List.zip_cons_cons, List.mapM_cons]

theorem params_passed (invocation : Invocation) (arguments : List Argument)
    (params : List Datum) (size : Nat) (sized : invocation.size = .ok size)
    (enough : arguments.length + 1 ≤ size)
    (found : Invocation.params arguments invocation = .ok params) :
    PassedParams invocation arguments (params.take arguments.length) := by
  cases arguments with
  | nil => exact ⟨by simp, by simp⟩
  | cons argument arguments =>
      obtain ⟨items, listed, same⟩ := (Except.bind_eq_ok _ _ _).mp found
      cases same
      obtain ⟨measured, anyPlace⟩ := itemsByPosition_ok listed
      rw [measured] at sized
      cases sized
      refine ⟨?_, fun index param held => ?_⟩
      · rw [List.length_take, List.length_tail]
        omega
      · rw [List.getElem?_take, List.getElem?_tail] at held
        rw [itemAt_eq_ok_iff]
        split at held
        · exact ⟨items, anyPlace _, held⟩
        · cases held

theorem passedTokens_take (types : EnumTypes) (precision : Precision)
    (arguments : List Argument) (params : List Datum) :
    passedTokens types precision arguments (params.take arguments.length) =
      passedTokens types precision arguments params := by
  induction arguments generalizing params with
  | nil => rfl
  | cons argument arguments ih =>
      cases params with
      | nil => rfl
      | cons param params =>
          rw [List.length_cons, List.take_succ_cons, passedTokens, passedTokens, ih]

/-- What the token of each argument shows holds of the tokens of all of them. -/
theorem forall₂_of_storedTokens {precision : Precision} {arguments : List Argument}
    {words : List String} {shows : Argument → String → Prop}
    (each : ∀ argument ∈ arguments, ∀ word,
      argument.value.token precision = .ok (.text word) → shows argument word)
    (rendered : storedTokens precision arguments = .ok (words.map .text)) :
    List.Forall₂ shows arguments words := by
  rw [storedTokens, mapM_eq_ok_iff, List.forall₂_map_right_iff] at rendered
  exact ((List.forall₂_and_left arguments words).mpr ⟨each, rendered⟩).imp
    fun _ word ⟨shows, token⟩ => shows word token

theorem forall₂_of_passedTokens {types : EnumTypes} {precision : Precision}
    {arguments : List Argument} {params : List Datum} {words : List String}
    {shows : Argument → String → Prop} (sameLength : params.length = arguments.length)
    (each : ∀ slot ∈ arguments.zip params, ∀ word,
      slot.1.value.paramToken types precision slot.2 = .ok (.text word) → shows slot.1 word)
    (rendered : passedTokens types precision arguments params = .ok (words.map .text)) :
    List.Forall₂ shows arguments words := by
  rw [passedTokens_eq_mapM, mapM_eq_ok_iff, List.forall₂_map_right_iff] at rendered
  rw [← List.map_fst_zip sameLength.ge, List.forall₂_map_left_iff]
  exact ((List.forall₂_and_left (arguments.zip params) words).mpr ⟨each, rendered⟩).imp
    fun _ word ⟨shows, token⟩ => shows word token

/-! What is shown of values that are passed in. -/

namespace Payload

/-- What a command shows of a value that is passed in. Of a brush passed by name it shows the name
alone, as it does of any other resource. -/
def shown (types : EnumTypes) : Payload → Datum → Except Fault Payload
  | brush .., .payload (brush name opacity spacing paintMode) =>
      .ok (brush name opacity spacing paintMode)
  | brush .., param => return resource (← paramText param)
  | payload, param => payload.updated types param

theorem paramToken_eq_shown (types : EnumTypes) (precision : Precision) (payload : Payload)
    (param : Datum) :
    payload.paramToken types precision param = payload.shown types param >>= token precision := by
  cases payload with
  | brush name opacity spacing paintMode =>
      rcases param with _ | _ | _ | _ | _ | _ | _ | _ | _ | _ | held
      case payload => cases held <;> rfl
      all_goals rfl
  | _ => rfl

theorem paramText_eq_ok {param words : Datum} (given : paramText param = .ok words) :
    param = words ∧ words.hasType [.text, .null] = true := by
  cases param <;> cases given <;> exact ⟨rfl, rfl⟩

theorem shown_brush_eq_ok {types : EnumTypes} {name opacity spacing paintMode param : Datum}
    {value : Payload}
    (given : (brush name opacity spacing paintMode).shown types param = .ok value) :
    (∃ held, param = .payload held ∧ held.kind = .brush ∧ value = held) ∨
      param.hasType [.text, .null] = true ∧ value = resource param := by
  rcases param with _ | _ | _ | _ | _ | _ | _ | _ | _ | _ | held
  case null =>
    cases given
    exact .inr ⟨rfl, rfl⟩
  case text words =>
    cases given
    exact .inr ⟨rfl, rfl⟩
  case payload =>
    cases held <;> cases given
    exact .inl ⟨_, rfl, rfl, rfl⟩
  all_goals cases given

end Payload

def shownValues (types : EnumTypes) (arguments : List Argument) (params : List Datum) :
    Except Fault (List Payload) :=
  (arguments.zip params).mapM fun slot => slot.1.value.shown types slot.2

theorem passedTokens_eq_ok_iff (types : EnumTypes) (precision : Precision)
    (arguments : List Argument) (params tokens : List Datum) :
    passedTokens types precision arguments params = .ok tokens ↔
      ∃ values, shownValues types arguments params = .ok values ∧
        values.mapM (Payload.token precision) = .ok tokens := by
  simp only [passedTokens_eq_mapM, Payload.paramToken_eq_shown, shownValues]
  exact mapM_bind_eq_ok _ _ _ _

namespace Script

/-! Commands. -/

theorem reads_passedCommand (types : EnumTypes) (precision : Precision)
    (invocation : Invocation) : (passedCommand types precision invocation).Reads := by
  refine (Act.reads_require _ _).bind fun _ => reads_exclusively ?_
  refine reads_arguments.bind fun arguments => (Act.reads_ofExcept _).bind fun size => ?_
  have rest : Act.Reads (do
      let params ← Act.ofExcept (Invocation.params arguments invocation)
      let tokens ← Act.ofExcept (passedTokens types precision arguments params)
      Act.ofExcept (formatCommand (← name) tokens) : ScriptAct String) :=
    (Act.reads_ofExcept _).bind fun _ => (Act.reads_ofExcept _).bind fun _ =>
      reads_name.bind fun _ => Act.reads_ofExcept _
  by_cases few : size < arguments.length + 1
  · simp only [few, if_true]
    exact reads_name.bind fun _ => (Act.reads_throw _).bind fun _ => rest
  · simp only [few, if_false]
    exact rest

theorem reads_command (precision : Precision) : (command precision).Reads := by
  refine reads_exclusively (reads_arguments.bind fun arguments => ?_)
  exact (Act.reads_ofExcept _).bind fun _ => reads_name.bind fun _ => Act.reads_ofExcept _

theorem command_ofArguments (precision : Precision) (profile : Profile)
    (arguments : List Argument) (name : String) (words : List String)
    (named : profile.name = .text name)
    (rendered : storedTokens precision arguments = .ok (words.map .text)) :
    command precision (ofArguments profile arguments) =
      .ok (commandText name words) (ofArguments profile arguments) := by
  refine exclusively_ok rfl rfl ?_
  refine (Act.bind_of_ok _ (arguments_of_slots _ arguments rfl)).trans ?_
  rw [rendered]
  refine (Act.bind_of_ok _ (told_text (·.name) named)).trans ?_
  rw [formatCommand_texts]
  rfl

theorem command_of_fault (precision : Precision) (profile : Profile)
    (arguments : List Argument) (fault : Fault)
    (failed : storedTokens precision arguments = .error fault) :
    command precision (ofArguments profile arguments) =
      .error fault (ofArguments profile arguments) := by
  refine exclusively_error rfl rfl ?_
  refine (Act.bind_of_ok _ (arguments_of_slots _ arguments rfl)).trans ?_
  rw [failed]
  rfl

/-- A command from the values that a script holds comes from one that nobody else holds, with all
its arguments and a text for a name. -/
theorem command_eq_ok {precision : Precision} {script after : Script} {text : String}
    (ran : command precision script = .ok text after) :
    ∃ profile name arguments words, script = ofArguments profile arguments ∧
      profile.name = .text name ∧
      storedTokens precision arguments = .ok (words.map .text) ∧
      text = commandText name words := by
  obtain ⟨free, next, rfl, notHeld, body, _⟩ := exclusively_eq_ok ran
  obtain ⟨arguments, held, listed, body⟩ := (Act.bind_eq_ok _ _ _ _ _).mp body
  have filled := arguments_eq_ok listed
  cases reads_arguments.state_eq listed
  obtain ⟨tokens, rendered, body⟩ := (Act.bind_ofExcept_eq_ok _ _ _ _ _).mp body
  obtain ⟨said, _, named, body⟩ := (Act.bind_eq_ok _ _ _ _ _).mp body
  obtain ⟨formatted, _⟩ := (Act.ofExcept_eq_ok _ _ _ _).mp body
  obtain ⟨name, words, named', rfl, rfl⟩ := formatCommand_eq_ok _ _ _ formatted
  exact ⟨free.profile, name, arguments, words, ofArguments_eq free arguments notHeld filled,
    (told_eq_ok named).symm.trans named', rendered, rfl⟩

/-- A command from the values of an invocation comes from a script that nobody holds, with all its
arguments and a text for a name. -/
theorem passedCommand_eq_ok {types : EnumTypes} {precision : Precision} {invocation : Invocation}
    {script after : Script} {command : String}
    (ran : passedCommand types precision invocation script = .ok command after) :
    ∃ profile name arguments params words,
      script = ofArguments profile arguments ∧ profile.name = .text name ∧
        PassedParams invocation arguments params ∧
        passedTokens types precision arguments params = .ok (words.map .text) ∧
        command = commandText name words := by
  obtain ⟨_, _, required, inside⟩ := (Act.bind_eq_ok _ _ _ _ _).mp ran
  cases (Act.reads_require _ _).state_eq required
  obtain ⟨free, next, rfl, notHeld, body, _⟩ := exclusively_eq_ok inside
  obtain ⟨arguments, held, listed, body⟩ := (Act.bind_eq_ok _ _ _ _ _).mp body
  have filled := arguments_eq_ok listed
  cases reads_arguments.state_eq listed
  obtain ⟨size, sized, body⟩ := (Act.bind_ofExcept_eq_ok _ _ _ _ _).mp body
  by_cases few : size < arguments.length + 1
  · simp only [few, if_true] at body
    obtain ⟨_, _, _, body⟩ := (Act.bind_eq_ok _ _ _ _ _).mp body
    cases body
  · simp only [few, if_false] at body
    obtain ⟨params, found, body⟩ := (Act.bind_ofExcept_eq_ok _ _ _ _ _).mp body
    obtain ⟨tokens, rendered, body⟩ := (Act.bind_ofExcept_eq_ok _ _ _ _ _).mp body
    obtain ⟨said, _, named, body⟩ := (Act.bind_eq_ok _ _ _ _ _).mp body
    obtain ⟨formatted, _⟩ := (Act.ofExcept_eq_ok _ _ _ _).mp body
    obtain ⟨name, words, named', rfl, rfl⟩ := formatCommand_eq_ok _ _ _ formatted
    have same := told_eq_ok named
    refine ⟨free.profile, name, arguments, params.take arguments.length, words,
      ofArguments_eq free arguments notHeld filled, same.symm.trans named',
      params_passed invocation arguments params size sized (by omega) found, ?_, rfl⟩
    rw [passedTokens_take, rendered]

end Script

end ScriptCatalog
