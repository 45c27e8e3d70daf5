import ScriptCatalog.Proofs.Command.Rendering
import ScriptCatalog.Proofs.Command.Token

/-! Commands as the reader takes them apart. The main statement, `commands_read_back`, finds behind
the name of a script exactly one token for each of its arguments, in both ways of rendering. -/

namespace ScriptCatalog

section

variable [Platform]

namespace Payload

/-- Whether a value that is passed in can be written as one token: a brush has fields of their
declared types, and raw text reads as one token. -/
def passable : Payload → Datum → Bool
  | rawText _, .text words => (rawText (.text words)).rawReadable
  | brush .., .payload held => held.wellTyped
  | _, _ => true

theorem shown_valid (types : EnumTypes) (payload value : Payload) (param : Datum)
    (typed : payload.wellTyped = true) (fit : payload.passable param = true)
    (given : payload.shown types param = .ok value) :
    value.wellTyped = true ∧ value.rawReadable = true := by
  cases payload with
  | itemId id =>
      obtain ⟨id, _, same⟩ := (Except.bind_eq_ok _ _ _).mp given
      cases same
      exact ⟨rfl, rfl⟩
  | color shade =>
      obtain ⟨shade, _, same⟩ := (Except.bind_eq_ok _ _ _).mp given
      cases same
      exact ⟨rfl, rfl⟩
  | toggle active =>
      obtain ⟨active, _, same⟩ := (Except.bind_eq_ok _ _ _).mp given
      cases same
      exact ⟨rfl, rfl⟩
  | rawText words =>
      obtain ⟨words, text, same⟩ := (Except.bind_eq_ok _ _ _).mp given
      cases same
      obtain ⟨rfl, valid⟩ := paramText_eq_ok text
      refine ⟨valid, ?_⟩
      rcases param.optionalText_cases valid with rfl | ⟨words, rfl⟩
      · rfl
      · exact fit
  | text words =>
      obtain ⟨words, text, same⟩ := (Except.bind_eq_ok _ _ _).mp given
      cases same
      exact ⟨(paramText_eq_ok text).2, rfl⟩
  | adjustment value lower upper step page digits slider =>
      obtain ⟨number, _, same⟩ := (Except.bind_eq_ok _ _ _).mp given
      cases same
      refine ⟨?_, rfl⟩
      simp only [wellTyped, List.all_cons, Bool.and_eq_true] at typed ⊢
      exact ⟨⟨⟨rfl, typed.1.1.2⟩, typed.1.2⟩, typed.2⟩
  | file filename =>
      obtain ⟨filename, text, same⟩ := (Except.bind_eq_ok _ _ _).mp given
      cases same
      exact ⟨(paramText_eq_ok text).2, rfl⟩
  | resource name =>
      obtain ⟨name, text, same⟩ := (Except.bind_eq_ok _ _ _).mp given
      cases same
      exact ⟨(paramText_eq_ok text).2, rfl⟩
  | brush name opacity spacing paintMode =>
      rcases shown_brush_eq_ok given with ⟨held, rfl, kind, rfl⟩ | ⟨text, rfl⟩
      · refine ⟨fit, ?_⟩
        cases value <;> cases kind
        rfl
      · exact ⟨text, rfl⟩
  | option labels selected =>
      obtain ⟨index, _, made⟩ := (Except.bind_eq_ok _ _ _).mp given
      obtain ⟨position, _, same⟩ := (Except.bind_eq_ok _ _ _).mp made
      cases same
      exact ⟨typed, rfl⟩
  | enum typeName selected =>
      obtain ⟨index, _, made⟩ := (Except.bind_eq_ok _ _ _).mp given
      obtain ⟨nicks, _, made⟩ := (Except.bind_eq_ok _ _ _).mp made
      cases nicks with
      | none => cases made
      | some nicks =>
          obtain ⟨_, _, made⟩ := (Except.bind_eq_ok _ _ _).mp made
          obtain ⟨position, _, same⟩ := (Except.bind_eq_ok _ _ _).mp made
          cases same
          exact ⟨typed, rfl⟩

end Payload

/-- Behind the name in a command there is one token for each value, and that is its own. -/
def ReadsBack (precision : Precision) (name : String) (values : List Payload)
    (command : String) : Prop :=
  ∃ rest tokens, command.toList = '(' :: name.toList ++ rest ++ [')'] ∧
    splitTokens rest = some tokens ∧
    List.Forall₂
      (fun value token => ∃ written,
        value.token precision = .ok (.text written) ∧ value.TokenReads written token)
      values tokens

section

variable {precision : Precision} {values : List Payload}

/-- Texts that are read one by one are read the same way in the command that they make up. -/
theorem splits_parts (name : String) (words : List String) (parts : List (List (List Char)))
    (alone : List.Forall₂ (fun word part => splitTokens word.toList = some part) words parts) :
    ∃ rest, (commandText name words).toList = '(' :: name.toList ++ rest ++ [')'] ∧
      splitTokens rest = some parts.flatten := by
  refine ⟨_, toList_commandText name words, ?_⟩
  have each : List.Forall₂ Splits (words.map String.toList) parts := by
    rw [List.forall₂_map_left_iff]
    exact alone.imp fun _ _ split => (splitTokens_eq_some_iff _ _).mp split
  have together := splits_flatten _ _ each
  rw [List.flatMap_map] at together
  exact (splitTokens_eq_some_iff _ _).mpr together

theorem splits_commandText (name : String) (words : List String) (tokens : List (List Char))
    (alone : List.Forall₂ (fun word token => splitTokens word.toList = some [token]) words tokens) :
    ∃ rest, (commandText name words).toList = '(' :: name.toList ++ rest ++ [')'] ∧
      splitTokens rest = some tokens := by
  have single := splits_parts name words (tokens.map fun token => [token])
    (List.forall₂_map_right_iff.mpr alone)
  rwa [← List.flatMap_def, List.flatMap_singleton'] at single

/-- What is found for each pair of items of two lists can be listed along both. -/
theorem exists_forall₂ {α β γ : Type} {pairs : α → β → Prop} {finds : α → β → γ → Prop}
    {left : List α} {right : List β} (each : List.Forall₂ pairs left right)
    (found : ∀ first ∈ left, ∀ second, pairs first second → ∃ third, finds first second third) :
    ∃ others, List.Forall₂ (fun second third => ∃ first, finds first second third) right others ∧
      List.Forall₂ (fun first third => ∃ second, pairs first second ∧ finds first second third)
        left others := by
  induction each with
  | nil => exact ⟨[], .nil, .nil⟩
  | cons pair _ ih =>
      obtain ⟨third, finds⟩ := found _ List.mem_cons_self _ pair
      obtain ⟨others, rights, lefts⟩ := ih fun first member =>
        found first (List.mem_cons_of_mem _ member)
      exact ⟨third :: others, .cons ⟨_, finds⟩ rights, .cons ⟨_, pair, finds⟩ lefts⟩

theorem tokens_read (typed : ∀ value ∈ values, value.wellTyped = true)
    (readable : ∀ value ∈ values, value.rawReadable = true) (words : List String)
    (rendered : values.mapM (Payload.token precision) = .ok (words.map .text)) :
    ∃ tokens, List.Forall₂ (fun word token => splitTokens word.toList = some [token]) words tokens ∧
      List.Forall₂
        (fun value token => ∃ written,
          value.token precision = .ok (.text written) ∧ value.TokenReads written token)
        values tokens := by
  rw [mapM_eq_ok_iff, List.forall₂_map_right_iff] at rendered
  obtain ⟨tokens, alone, each⟩ := exists_forall₂ rendered fun value member written made => by
    have valid := typed value member
    obtain ⟨counted, short⟩ := Payload.counted_and_short_of_token valid made
    obtain ⟨_, token, same, reads⟩ := Payload.token_reads precision value valid
      (readable value member) counted short
    cases made.symm.trans same
    exact ⟨token, reads⟩
  exact ⟨tokens, alone.imp fun _ _ ⟨_, reads⟩ => reads.alone, each⟩

theorem readsBack_commandText (name : String)
    (typed : ∀ value ∈ values, value.wellTyped = true)
    (readable : ∀ value ∈ values, value.rawReadable = true) (words : List String)
    (rendered : values.mapM (Payload.token precision) = .ok (words.map .text)) :
    ReadsBack precision name values (commandText name words) := by
  obtain ⟨tokens, alone, each⟩ := tokens_read typed readable words rendered
  obtain ⟨rest, framed, split⟩ := splits_commandText name words tokens alone
  exact ⟨rest, tokens, framed, split, each⟩

theorem tokens_ok (typed : ∀ value ∈ values, value.wellTyped = true)
    (readable : ∀ value ∈ values, value.rawReadable = true)
    (counted : ∀ value ∈ values, value.hasPlaces = true → ∃ places, precision.count = .ok places)
    (short : ∀ value ∈ values, value.hasFewDigits = true) :
    ∃ words : List String, values.mapM (Payload.token precision) = .ok (words.map .text) := by
  induction values with
  | nil => exact ⟨[], rfl⟩
  | cons value values ih =>
      obtain ⟨word, _, made, _⟩ := Payload.token_reads precision value
        (typed value List.mem_cons_self) (readable value List.mem_cons_self)
        (counted value List.mem_cons_self) (short value List.mem_cons_self)
      obtain ⟨words, others⟩ := ih (fun other member => typed other (by simp [member]))
        (fun other member => readable other (by simp [member]))
        (fun other member => counted other (by simp [member]))
        fun other member => short other (by simp [member])
      refine ⟨word :: words, ?_⟩
      rw [List.mapM_cons, made, others]
      rfl

theorem tokens_eq_error (typed : ∀ value ∈ values, value.wellTyped = true)
    (readable : ∀ value ∈ values, value.rawReadable = true) {fault : Fault}
    (failed : values.mapM (Payload.token precision) = .error fault) :
    precision.count = .error fault ∧ (∃ value ∈ values, value.hasPlaces = true) ∨
      fault = .tooManyDigits Platform.digits ∧ ∃ value ∈ values, value.hasFewDigits = false := by
  obtain ⟨before, value, after, rfl, _, failed⟩ := (mapM_eq_error_iff _ _ _).mp failed
  have member : value ∈ before ++ value :: after := by simp
  rcases Payload.token_eq_error (typed value member) (readable value member) failed with
    ⟨numeric, uncounted⟩ | ⟨long, same⟩
  · exact .inl ⟨uncounted, value, member, numeric⟩
  · exact .inr ⟨same, value, member, long⟩

end

theorem storedTokens_eq_mapM (precision : Precision) (arguments : List Argument) :
    storedTokens precision arguments =
      (arguments.map (·.value)).mapM (Payload.token precision) := by
  rw [storedTokens, List.mapM_map]
  rfl

theorem exists_slot_of_shownValues {types : EnumTypes} {arguments : List Argument}
    {params : List Datum} {values : List Payload}
    (given : shownValues types arguments params = .ok values) {value : Payload}
    (member : value ∈ values) :
    ∃ slot ∈ arguments.zip params, slot.1 ∈ arguments ∧
      slot.1.value.shown types slot.2 = .ok value := by
  rw [shownValues, mapM_eq_ok_iff] at given
  obtain ⟨slot, there, shown⟩ := exists_mem_of_forall₂ given member
  exact ⟨slot, there, (List.of_mem_zip there).1, shown⟩

theorem shownValues_valid (types : EnumTypes) (arguments : List Argument) (params : List Datum)
    (values : List Payload) (typed : ∀ argument ∈ arguments, argument.value.wellTyped = true)
    (fit : ∀ slot ∈ arguments.zip params, slot.1.value.passable slot.2 = true)
    (given : shownValues types arguments params = .ok values) :
    ∀ value ∈ values, value.wellTyped = true ∧ value.rawReadable = true := by
  intro value member
  obtain ⟨slot, there, argument, shown⟩ := exists_slot_of_shownValues given member
  exact Payload.shown_valid types _ _ _ (typed _ argument) (fit slot there) shown

theorem count_inRange (count : Int) (least : leastPlaces ≤ count) (most : count ≤ mostPlaces) :
    (Precision.places count).count = .ok count.toNat := by
  simp [Precision.count, least, most]

theorem count_outOfRange (count : Int) (outside : count < leastPlaces ∨ mostPlaces < count) :
    (Precision.places count).count = .error .placesTooLarge := by
  have notBoth : ¬(leastPlaces ≤ count ∧ count ≤ mostPlaces) := by omega
  simp [Precision.count, notBoth]

/-- Whether the values of arguments can be written with so many decimal places: where there are
numbers the places must be in range, and no integer must be too long to be written out. -/
def CanWrite (count : Int) (arguments : List Argument) : Prop :=
  (leastPlaces ≤ count ∧ count ≤ mostPlaces ∨
      ∀ argument ∈ arguments, argument.value.hasPlaces = false) ∧
    ∀ argument ∈ arguments, argument.value.hasFewDigits = true

theorem storedTokens_of_canWrite {arguments : List Argument} {count : Int}
    (typed : ∀ argument ∈ arguments, argument.value.wellTyped = true)
    (readable : ∀ argument ∈ arguments, argument.value.rawReadable = true)
    (can : CanWrite count arguments) :
    ∃ words : List String, storedTokens (.places count) arguments = .ok (words.map .text) := by
  rw [storedTokens_eq_mapM]
  refine tokens_ok (by simpa using typed) (by simpa using readable) ?_ (by simpa using can.2)
  intro value member numeric
  rcases can.1 with ⟨least, most⟩ | none
  · exact ⟨_, count_inRange count least most⟩
  · obtain ⟨argument, present, rfl⟩ := List.mem_map.mp member
    rw [none argument present] at numeric
    cases numeric

/-- Why values cannot be written: the decimal places are out of range where there are numbers, or an
integer is too long. -/
theorem storedTokens_of_not_canWrite {arguments : List Argument} {count : Int}
    (typed : ∀ argument ∈ arguments, argument.value.wellTyped = true)
    (readable : ∀ argument ∈ arguments, argument.value.rawReadable = true)
    (cannot : ¬CanWrite count arguments) :
    ∃ fault, storedTokens (.places count) arguments = .error fault ∧
      (fault = .placesTooLarge ∧ (count < leastPlaces ∨ mostPlaces < count) ∧
          (∃ argument ∈ arguments, argument.value.hasPlaces = true) ∨
        fault = .tooManyDigits Platform.digits ∧
          ∃ argument ∈ arguments, argument.value.hasFewDigits = false) := by
  rw [storedTokens_eq_mapM]
  have typedValues : ∀ value ∈ arguments.map (·.value), value.wellTyped = true := by
    simpa using typed
  cases rendered : (arguments.map (·.value)).mapM (Payload.token (.places count)) with
  | error fault =>
      refine ⟨fault, rfl, ?_⟩
      rcases tokens_eq_error typedValues (by simpa using readable) rendered with
        ⟨uncounted, numeric⟩ | ⟨same, long⟩
      · refine .inl ?_
        have outside : count < leastPlaces ∨ mostPlaces < count := by
          by_contra inside
          rw [count_inRange count (by omega) (by omega)] at uncounted
          cases uncounted
        cases (count_outOfRange count outside).symm.trans uncounted
        exact ⟨rfl, outside, by simpa using numeric⟩
      · exact .inr ⟨same, by simpa using long⟩
  | ok words =>
      -- Every value was written, so the places were in range for each number.
      refine absurd ?_ cannot
      have each (argument : Argument) (member : argument ∈ arguments) :
          (argument.value.hasPlaces = true →
              ∃ places, (Precision.places count).count = .ok places) ∧
            argument.value.hasFewDigits = true := by
        have pairs := (mapM_eq_ok_iff _ _ _).mp rendered
        obtain ⟨_, _, made⟩ :=
          exists_mem_of_forall₂ (List.Forall₂.flip pairs) (List.mem_map_of_mem member)
        exact Payload.counted_and_short_of_token (typed argument member) made
      refine ⟨?_, fun argument member => (each argument member).2⟩
      by_contra outside
      rw [not_or] at outside
      obtain ⟨outside, some⟩ := outside
      rw [not_forall] at some
      obtain ⟨argument, numeric⟩ := some
      rw [Classical.not_imp, Bool.not_eq_false] at numeric
      obtain ⟨_, counted⟩ := (each argument numeric.1).1 numeric.2
      rw [count_outOfRange count (by omega)] at counted
      cases counted

/-- One readable token for each argument. The command of a script reads back as the tokens of the
values that it holds, unless there are numbers to write and the decimal places asked for are out of
range, or an integer is too long to be written out: then there is none. A command from the values of
an invocation reads back as the tokens of those, each brush passed by name being its name alone. -/
theorem commands_read_back (types : EnumTypes) (profile : Profile) (arguments : List Argument)
    (name : String) (count : Int) (named : profile.name = .text name)
    (typed : ∀ argument ∈ arguments, argument.value.wellTyped = true) :
    ((∀ argument ∈ arguments, argument.value.rawReadable = true) →
      (CanWrite count arguments →
        ∃ command,
          Script.command (.places count) (.ofArguments profile arguments) =
            .ok command (.ofArguments profile arguments) ∧
          ReadsBack (.places count) name (arguments.map (·.value)) command) ∧
      (¬CanWrite count arguments →
        ∃ fault,
          Script.command (.places count) (.ofArguments profile arguments) =
            .error fault (.ofArguments profile arguments) ∧
          (fault = .placesTooLarge ∧ (count < leastPlaces ∨ mostPlaces < count) ∧
              (∃ argument ∈ arguments, argument.value.hasPlaces = true) ∨
            fault = .tooManyDigits Platform.digits ∧
              ∃ argument ∈ arguments, argument.value.hasFewDigits = false))) ∧
    ∀ invocation command after,
      Script.passedCommand types (.places count) invocation (.ofArguments profile arguments) =
          .ok command after →
        ∃ params values, PassedParams invocation arguments params ∧
          shownValues types arguments params = .ok values ∧
          ((∀ slot ∈ arguments.zip params, slot.1.value.passable slot.2 = true) →
            ReadsBack (.places count) name values command) := by
  refine ⟨fun readable => ⟨fun can => ?_, fun cannot => ?_⟩, ?_⟩
  · obtain ⟨words, rendered⟩ := storedTokens_of_canWrite typed readable can
    refine ⟨_, Script.command_ofArguments _ _ _ _ _ named rendered, ?_⟩
    rw [storedTokens_eq_mapM] at rendered
    exact readsBack_commandText name (by simpa using typed) (by simpa using readable) words rendered
  · obtain ⟨fault, failed, causes⟩ := storedTokens_of_not_canWrite typed readable cannot
    exact ⟨fault, Script.command_of_fault _ _ _ _ failed, causes⟩
  · intro invocation command after ran
    obtain ⟨_, found, held, params, words, same, foundNamed, passed, rendered, rfl⟩ :=
      Script.passedCommand_eq_ok ran
    obtain ⟨rfl, rfl⟩ := Script.ofArguments_inj same
    rw [named] at foundNamed
    cases foundNamed
    -- The tokens are those of what is shown of each value, and not of what would be stored.
    obtain ⟨values, shown, tokens⟩ := (passedTokens_eq_ok_iff _ _ _ _ _).mp rendered
    refine ⟨params, values, passed, shown, fun fit => ?_⟩
    have valid := shownValues_valid types _ params values typed fit shown
    exact readsBack_commandText _ (fun value member => (valid value member).1)
      (fun value member => (valid value member).2) words tokens

end

/-- A text, a brush and raw text whose marks would mislead a reader. -/
def markedArguments : List Argument :=
  [{ kind := .string, label := .text "A", default := .text .null, value := .text (.text "\"(a\\") },
    { kind := .brush, label := .text "B", default := .brush .null (.real .one) (.int 20) (.int 0)
      value := .brush (.text "b\" )") (.real .one) (.int 20) (.int 0) },
    { kind := .value, label := .text "C", default := .rawText .null
      value := .rawText (.text "x") }]

theorem commands_read_back_marked :
    (∃ command,
      Script.command (.places 2) (.ofArguments (.plain "s") markedArguments) =
        .ok command (.ofArguments (.plain "s") markedArguments) ∧
      ReadsBack (.places 2) "s" (markedArguments.map (·.value)) command) ∧
    ∃ values,
      Script.passedCommand EnumTypes.standard (.places 2)
        (.list [.int 1, .null, .text "b)", .text "y"])
        (.ofArguments (.plain "s") markedArguments) =
          .ok "(s \"\" \"b)\" y)" (.ofArguments (.plain "s") markedArguments) ∧
      ReadsBack (.places 2) "s" values "(s \"\" \"b)\" y)" := by
  have reads := commands_read_back EnumTypes.standard (.plain "s") markedArguments "s" 2 rfl
    (by decide)
  refine ⟨(reads.1 (by decide)).1 ⟨.inl (by decide), by decide +kernel⟩, ?_⟩
  obtain ⟨params, values, passed, _, readsBack⟩ :=
    reads.2 (.list [.int 1, .null, .text "b)", .text "y"]) _ _ rfl
  refine ⟨values, rfl, readsBack ?_⟩
  have listed : Datum.itemsByPosition 0 (.list [.int 1, .null, .text "b)", .text "y"]) =
      .ok [.int 1, .null, .text "b)", .text "y"] := rfl
  rw [passed.eq_take listed]
  decide

/-- An image whose number has one digit more than can be written out. -/
def longItem : List Argument :=
  [{ kind := .image, label := .text "I", default := .itemId (.int noItemId)
     value := .itemId (.int (Nat.pow 10 4300 : Nat)) }]

/-- Not every count of decimal places gives a command, and not every number of an item. -/
theorem not_written_with_any_places :
    ¬(∀ (profile : Profile) (arguments : List Argument) (name : String) (count : Int),
      profile.name = .text name →
      (∀ argument ∈ arguments, argument.value.wellTyped = true) →
      (∀ argument ∈ arguments, argument.value.rawReadable = true) →
        ∃ command,
          Script.command (.places count) (.ofArguments profile arguments) =
            .ok command (.ofArguments profile arguments) ∧
          ReadsBack (.places count) name (arguments.map (·.value)) command) ∧
    Script.command (.places (-2147483649)) (.ofArguments (.plain "s") markedArguments) =
      .error .placesTooLarge (.ofArguments (.plain "s") markedArguments) ∧
    Script.command (.places 6) (.ofArguments (.plain "s") longItem) =
      .error (.tooManyDigits 4300) (.ofArguments (.plain "s") longItem) := by
  have failed : Script.command (.places (-2147483649)) (.ofArguments (.plain "s") markedArguments) =
      .error .placesTooLarge (.ofArguments (.plain "s") markedArguments) := rfl
  refine ⟨fun every => ?_, failed, ?_⟩
  · obtain ⟨command, rendered, _⟩ :=
      every (.plain "s") markedArguments "s" (-2147483649) rfl (by decide) (by decide)
    rw [failed] at rendered
    cases rendered
  · have long : isShort (Nat.pow 10 4300 : Nat) = false := by decide +kernel
    refine Script.command_of_fault _ _ _ _ ?_
    simp only [longItem, storedTokens, List.mapM_cons, Payload.token, idToken, Datum.written,
      Datum.unshown?_int, long]
    rfl

end ScriptCatalog
