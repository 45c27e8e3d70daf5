import ScriptCatalog.Proofs.Command.ReadBack

/-! Commands of which the raw texts read as any number of tokens. The main statement,
`commands_read_in_parts`, finds behind the name of a script a part for each of its arguments. Raw
text that is blank throughout has no token, so its part is empty and what stands behind it moves up;
no other argument is without a token. -/

namespace ScriptCatalog

section

variable [Platform]

namespace Payload

/-- Whether raw text, if it is given, reads as tokens on its own, however many they are. -/
def rawSplits : Payload → Bool
  | rawText (.text words) => (splitTokens words.toList).isSome
  | _ => true

/-- Whether a payload is raw text of nothing but blanks, of which there is at least one. -/
def rawBlank : Payload → Bool
  | rawText (.text words) => !words.isEmpty && words.toList.all isBlank
  | _ => false

/-- What the reader finds in the text that is written for a payload, and for no other. -/
structure PartReads (payload : Payload) (written : String) (part : List (List Char)) : Prop where
  alone : splitTokens written.toList = some part
  nothing : part = [] ↔ payload.rawBlank = true
  whole : payload.kind ≠ .rawText → part = [written.toList]
  verbatim : ∀ words, payload = rawText (.text words) → words ≠ "" → written = words

/-- Whether a value that is passed in can be written as tokens: a brush has fields of their declared
types, and raw text reads as tokens. -/
def splittable : Payload → Datum → Bool
  | rawText _, .text words => (rawText (.text words)).rawSplits
  | brush .., .payload held => held.wellTyped
  | _, _ => true

end Payload

theorem splitTokens_eq_nil_iff (text : List Char) :
    splitTokens text = some [] ↔ text.all isBlank = true := by
  rw [splitTokens_eq_some_iff, List.all_eq_true]
  constructor
  · rintro ⟨blank⟩
    exact blank
  · exact .blank

namespace Payload

theorem TokenReads.partReads {payload : Payload} {written : String} {token : List Char}
    (reads : payload.TokenReads written token) (notBlank : payload.rawBlank = false)
    (verbatim : ∀ words, payload = rawText (.text words) → words ≠ "" → written = words) :
    payload.PartReads written [token] := by
  refine ⟨reads.alone, ?_, fun notRaw => ?_, verbatim⟩
  · rw [notBlank]
    exact ⟨nofun, nofun⟩
  · rw [reads.whole notRaw]

theorem token_rawText (precision : Precision) {words : String} (given : words ≠ "") :
    (rawText (.text words)).token precision = .ok (.text words) := by
  have notEmpty : words.length ≠ 0 := fun empty => given (String.length_eq_zero_iff.mp empty)
  change (if words.length = 0 then _ else _) = _
  rw [if_neg notEmpty]
  rfl

/-- Every payload of declared types is written as a text that reads as a part of a command. -/
theorem part_reads (precision : Precision) (payload : Payload) (typed : payload.wellTyped = true)
    (splits : payload.rawSplits = true)
    (counted : payload.hasPlaces = true → ∃ places, precision.count = .ok places)
    (short : payload.hasFewDigits = true) :
    ∃ written part,
      payload.token precision = .ok (.text written) ∧ payload.PartReads written part := by
  have single (readable : payload.rawReadable = true) (notBlank : payload.rawBlank = false)
      (verbatim : ∀ words, payload = rawText (.text words) → words = "") :
      ∃ written part,
        payload.token precision = .ok (.text written) ∧ payload.PartReads written part := by
    obtain ⟨written, token, made, reads⟩ :=
      token_reads precision payload typed readable counted short
    exact ⟨written, [token], made, reads.partReads notBlank fun words same given =>
      absurd (verbatim words same) given⟩
  cases payload with
  | rawText words =>
      rcases words.optionalText_cases typed with rfl | ⟨words, rfl⟩
      · exact single rfl rfl nofun
      · by_cases given : words = ""
        · subst given
          exact single rfl rfl fun words same => by cases same; rfl
        · obtain ⟨part, alone⟩ := Option.isSome_iff_exists.mp splits
          refine ⟨words, part, token_rawText precision given, alone, ?_, fun notRaw =>
            absurd rfl notRaw, fun others same _ => by cases same; rfl⟩
          have notEmpty : words.isEmpty = false := String.isEmpty_eq_false_iff.mpr given
          rw [rawBlank, notEmpty, Bool.not_false, Bool.true_and, ← splitTokens_eq_nil_iff, alone,
            Option.some_inj]
  | _ => exact single rfl rfl nofun

theorem rawSplits_of_rawReadable {payload : Payload} (readable : payload.rawReadable = true) :
    payload.rawSplits = true := by
  unfold rawReadable at readable
  split at readable
  next words =>
    rcases Bool.or_eq_true_iff.mp readable with empty | single
    · rw [String.isEmpty_iff.mp empty]
      rfl
    · obtain ⟨tokens, split, _⟩ := (Option.any_eq_true _ _).mp single
      exact Option.isSome_iff_exists.mpr ⟨tokens, split⟩
  next notText =>
    unfold rawSplits
    split
    next words => exact absurd rfl (notText words)
    next => rfl

theorem shown_splits (types : EnumTypes) (payload value : Payload) (param : Datum)
    (typed : payload.wellTyped = true) (fit : payload.splittable param = true)
    (given : payload.shown types param = .ok value) :
    value.wellTyped = true ∧ value.rawSplits = true := by
  have others (passable : payload.passable param = true) :
      value.wellTyped = true ∧ value.rawSplits = true := by
    obtain ⟨valid, readable⟩ := shown_valid types payload value param typed passable given
    exact ⟨valid, rawSplits_of_rawReadable readable⟩
  cases payload with
  | rawText words =>
      obtain ⟨words, text, same⟩ := (Except.bind_eq_ok _ _ _).mp given
      cases same
      obtain ⟨rfl, valid⟩ := paramText_eq_ok text
      refine ⟨valid, ?_⟩
      rcases param.optionalText_cases valid with rfl | ⟨words, rfl⟩
      · rfl
      · exact fit
  | brush name opacity spacing paintMode =>
      refine others ?_
      cases param <;> exact fit
  | _ => exact others rfl

end Payload

/-- Behind the name in a command each value has a part, which is what its own text reads as. Up to
any of the values there are as many tokens, or more, if those are counted as well that are blank. -/
def ReadsInParts (precision : Precision) (name : String) (values : List Payload)
    (command : String) : Prop :=
  ∃ rest parts, command.toList = '(' :: name.toList ++ rest ++ [')'] ∧
    splitTokens rest = some (List.flatten parts) ∧
    List.Forall₂
      (fun value part => ∃ written,
        value.token precision = .ok (.text written) ∧ value.PartReads written part)
      values parts ∧
    ∀ count, (values.take count).length ≤
      (parts.take count).flatten.length + (values.take count).countP (·.rawBlank)

section

variable {precision : Precision} {values : List Payload}

theorem length_le_of_parts {parts : List (List (List Char))}
    (each : List.Forall₂ (fun value part => part = [] ↔ Payload.rawBlank value = true)
      values parts) :
    values.length ≤ parts.flatten.length + values.countP (·.rawBlank) := by
  induction each with
  | nil => exact Nat.zero_le _
  | @cons value part values parts nothing _ ih =>
      rw [List.length_cons, List.flatten_cons, List.length_append, List.countP_cons]
      by_cases blank : value.rawBlank = true
      · rw [if_pos blank]
        omega
      · have positive : 0 < part.length :=
          List.length_pos_iff.mpr fun none => blank (nothing.mp none)
        omega

theorem readsInParts_commandText (name : String)
    (typed : ∀ value ∈ values, value.wellTyped = true)
    (splits : ∀ value ∈ values, value.rawSplits = true) (words : List String)
    (rendered : values.mapM (Payload.token precision) = .ok (words.map .text)) :
    ReadsInParts precision name values (commandText name words) := by
  rw [mapM_eq_ok_iff, List.forall₂_map_right_iff] at rendered
  obtain ⟨parts, alone, each⟩ := exists_forall₂ rendered fun value member written made => by
    have valid := typed value member
    obtain ⟨counted, short⟩ := Payload.counted_and_short_of_token valid made
    obtain ⟨_, part, same, reads⟩ :=
      Payload.part_reads precision value valid (splits value member) counted short
    cases made.symm.trans same
    exact ⟨part, reads⟩
  obtain ⟨rest, framed, split⟩ :=
    splits_parts name words parts (alone.imp fun _ _ ⟨_, reads⟩ => reads.alone)
  refine ⟨rest, parts, framed, split, each, fun count => length_le_of_parts ?_⟩
  exact (List.forall₂_take count each).imp fun _ _ ⟨_, _, reads⟩ => reads.nothing

theorem words_ok (typed : ∀ value ∈ values, value.wellTyped = true)
    (splits : ∀ value ∈ values, value.rawSplits = true)
    (counted : ∃ places, precision.count = .ok places)
    (short : ∀ value ∈ values, value.hasFewDigits = true) :
    ∃ words : List String, values.mapM (Payload.token precision) = .ok (words.map .text) := by
  induction values with
  | nil => exact ⟨[], rfl⟩
  | cons value values ih =>
      obtain ⟨word, _, made, _⟩ := Payload.part_reads precision value
        (typed value List.mem_cons_self) (splits value List.mem_cons_self) (fun _ => counted)
        (short value List.mem_cons_self)
      obtain ⟨words, others⟩ := ih (fun other member => typed other (List.mem_cons_of_mem _ member))
        (fun other member => splits other (List.mem_cons_of_mem _ member))
        fun other member => short other (List.mem_cons_of_mem _ member)
      refine ⟨word :: words, ?_⟩
      rw [List.mapM_cons, made, others]
      rfl

end

theorem shownValues_split (types : EnumTypes) (arguments : List Argument) (params : List Datum)
    (values : List Payload) (typed : ∀ argument ∈ arguments, argument.value.wellTyped = true)
    (fit : ∀ slot ∈ arguments.zip params, slot.1.value.splittable slot.2 = true)
    (given : shownValues types arguments params = .ok values) :
    ∀ value ∈ values, value.wellTyped = true ∧ value.rawSplits = true := by
  intro value member
  obtain ⟨slot, there, argument, shown⟩ := exists_slot_of_shownValues given member
  exact Payload.shown_splits types _ _ _ (typed _ argument) (fit slot there) shown

/-- An invocation with a value for each argument gives a command if those values can be written. -/
theorem Script.passedCommand_ofArguments (types : EnumTypes) (precision : Precision)
    (profile : Profile) (arguments : List Argument) (name : String)
    (named : profile.name = .text name) {invocation : Invocation} {items : List Datum}
    (words : List String) (listed : invocation.itemsByPosition 1 = .ok items)
    (enough : arguments.length < items.length)
    (rendered : passedTokens types precision arguments items.tail = .ok (words.map .text)) :
    passedCommand types precision invocation (ofArguments profile arguments) =
      .ok (commandText name words) (ofArguments profile arguments) := by
  have notNull : invocation.isNull = false := by
    cases invocation with
    | null => cases listed
    | _ => rfl
  have present : Act.require (!invocation.isNull) .absentObject (ofArguments profile arguments) =
      .ok () (ofArguments profile arguments) := by
    rw [notNull]
    rfl
  have params : Invocation.params arguments invocation =
      .ok (if arguments.isEmpty then [] else items.tail) := by
    rw [Invocation.params, listed]
    split <;> rfl
  have shown : passedTokens types precision arguments
      (if arguments.isEmpty then [] else items.tail) = .ok (words.map .text) := by
    rw [← rendered]
    cases arguments <;> rfl
  refine (Act.bind_of_ok _ present).trans (exclusively_ok rfl rfl ?_)
  refine (Act.bind_of_ok _ (arguments_of_slots _ arguments rfl)).trans ?_
  rw [(itemsByPosition_ok listed).1, Act.ofExcept_ok_bind, if_neg (by omega)]
  refine (Act.bind_ofExcept_eq_ok _ _ _ _ _).mpr ⟨_, params, ?_⟩
  refine (Act.bind_ofExcept_eq_ok _ _ _ _ _).mpr ⟨_, shown, ?_⟩
  refine (Act.bind_of_ok _ (told_text (·.name) named)).trans ?_
  rw [formatCommand_texts]
  rfl

/-- The command of a script reads in parts, one for each of its arguments, and so does a command
from the values of an invocation. It is given if the decimal places asked for are in range and no
integer is too long to be written out. Whoever stands behind raw text of nothing but blanks moves
up; where there is none, there are at least as many tokens as arguments. -/
theorem commands_read_in_parts (types : EnumTypes) (profile : Profile) (arguments : List Argument)
    (name : String) (named : profile.name = .text name)
    (typed : ∀ argument ∈ arguments, argument.value.wellTyped = true) :
    ((∀ argument ∈ arguments, argument.value.rawSplits = true) →
      (∀ precision command after,
        Script.command precision (.ofArguments profile arguments) = .ok command after →
          ReadsInParts precision name (arguments.map (·.value)) command) ∧
      ((∀ argument ∈ arguments, argument.value.hasFewDigits = true) →
        ∀ count, leastPlaces ≤ count → count ≤ mostPlaces →
          ∃ command, Script.command (.places count) (.ofArguments profile arguments) =
            .ok command (.ofArguments profile arguments))) ∧
    ∀ invocation,
      (∀ precision command after,
        Script.passedCommand types precision invocation (.ofArguments profile arguments) =
            .ok command after →
          ∃ params values, PassedParams invocation arguments params ∧
            shownValues types arguments params = .ok values ∧
            ((∀ slot ∈ arguments.zip params, slot.1.value.splittable slot.2 = true) →
              ReadsInParts precision name values command)) ∧
      ∀ items values, invocation.itemsByPosition 1 = .ok items →
        arguments.length < items.length →
        shownValues types arguments items.tail = .ok values →
        (∀ slot ∈ arguments.zip items.tail, slot.1.value.splittable slot.2 = true) →
        (∀ value ∈ values, value.hasFewDigits = true) →
        ∀ count, leastPlaces ≤ count → count ≤ mostPlaces →
          ∃ command,
            Script.passedCommand types (.places count) invocation (.ofArguments profile arguments) =
              .ok command (.ofArguments profile arguments) := by
  have typedValues : ∀ value ∈ arguments.map (·.value), value.wellTyped = true := by
    simpa using typed
  refine ⟨fun splits => ?_, fun invocation => ⟨?_, ?_⟩⟩
  · have splitValues : ∀ value ∈ arguments.map (·.value), value.rawSplits = true := by
      simpa using splits
    refine ⟨fun precision command after ran => ?_, fun short count least most => ?_⟩
    · obtain ⟨_, found, held, words, same, foundNamed, rendered, rfl⟩ := Script.command_eq_ok ran
      obtain ⟨rfl, rfl⟩ := Script.ofArguments_inj same
      cases named.symm.trans foundNamed
      rw [storedTokens_eq_mapM] at rendered
      exact readsInParts_commandText name typedValues splitValues words rendered
    · obtain ⟨words, rendered⟩ :=
        words_ok typedValues splitValues ⟨_, count_inRange count least most⟩ (by simpa using short)
      rw [← storedTokens_eq_mapM] at rendered
      exact ⟨_, Script.command_ofArguments _ profile arguments name words named rendered⟩
  · intro precision command after ran
    obtain ⟨_, found, held, params, words, same, foundNamed, passed, rendered, rfl⟩ :=
      Script.passedCommand_eq_ok ran
    obtain ⟨rfl, rfl⟩ := Script.ofArguments_inj same
    cases named.symm.trans foundNamed
    obtain ⟨values, shown, tokens⟩ := (passedTokens_eq_ok_iff _ _ _ _ _).mp rendered
    refine ⟨params, values, passed, shown, fun fit => ?_⟩
    have valid := shownValues_split types _ params values typed fit shown
    exact readsInParts_commandText _ (fun value member => (valid value member).1)
      (fun value member => (valid value member).2) words tokens
  · intro items values listed enough shown fit short count least most
    have valid := shownValues_split types arguments items.tail values typed fit shown
    obtain ⟨words, tokens⟩ := words_ok (fun value member => (valid value member).1)
      (fun value member => (valid value member).2) ⟨_, count_inRange count least most⟩ short
    have rendered := (passedTokens_eq_ok_iff types _ _ _ _).mpr ⟨values, shown, tokens⟩
    exact ⟨_, Script.passedCommand_ofArguments types _ profile arguments name named words listed
      enough rendered⟩

end

/-- Raw text and a text behind it. -/
def behindRaw (words : String) : List Argument :=
  [{ kind := .value, label := .text "A", default := .rawText .null
     value := .rawText (.text words) },
    { kind := .string, label := .text "B", default := .text .null, value := .text (.text "x") }]

theorem commands_read_in_parts_several :
    (∃ command, Script.command (.places 6) (.ofArguments (.plain "s") (behindRaw "1 2")) =
        .ok command (.ofArguments (.plain "s") (behindRaw "1 2")) ∧
      ReadsInParts (.places 6) "s" ((behindRaw "1 2").map (·.value)) command) ∧
    ∃ command, Script.passedCommand .standard (.places 6)
        (.list [.int 1, .text "3 \"a b\"", .null])
        (.ofArguments (.plain "s") (behindRaw "1 2")) =
      .ok command (.ofArguments (.plain "s") (behindRaw "1 2")) := by
  obtain ⟨stored, passed⟩ :=
    commands_read_in_parts .standard (.plain "s") (behindRaw "1 2") "s" rfl (by decide)
  obtain ⟨reads, given⟩ := stored (by decide)
  obtain ⟨command, ran⟩ := given (by decide) 6 (by decide) (by decide)
  refine ⟨⟨command, ran, reads _ _ _ ran⟩, ?_⟩
  obtain ⟨_, gives⟩ := passed (.list [.int 1, .text "3 \"a b\"", .null])
  exact gives [.int 1, .text "3 \"a b\"", .null] [.rawText (.text "3 \"a b\""), .text .null] rfl
    (by decide) rfl (by decide +kernel) (by decide) 6 (by decide) (by decide)

/-- A blank leaves no token, and the text behind it is read in its place. -/
theorem blank_text_moves_next_up :
    (∀ argument ∈ behindRaw " ", argument.value.wellTyped = true ∧
      argument.value.rawSplits = true) ∧
    ∃ rest, Script.command (.places 6) (.ofArguments (.plain "s") (behindRaw " ")) =
        .ok (String.ofList ('(' :: "s".toList ++ rest ++ [')']))
          (.ofArguments (.plain "s") (behindRaw " ")) ∧
      splitTokens rest = some ["\"x\"".toList] :=
  ⟨by decide, "   \"x\"".toList, rfl, by decide⟩

end ScriptCatalog
