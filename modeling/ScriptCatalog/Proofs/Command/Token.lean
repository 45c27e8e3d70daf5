import ScriptCatalog.Argument.Token
import ScriptCatalog.Proofs.Act
import ScriptCatalog.Proofs.Command.Word

/-! The tokens of payloads. A payload whose fields have the types they are declared with has a
token, and the reader takes that token as one, whatever the texts in it hold. -/

namespace ScriptCatalog

variable [Platform]

namespace Datum

def textChars : Datum → List Char
  | text words => words.toList
  | _ => []

theorem optionalText_cases (value : Datum) (typed : value.hasType [.text, .null] = true) :
    value = null ∨ ∃ words, value = text words := by
  cases value <;> simp_all [hasType, typeName, TypeName.isA]

theorem integer_cases (value : Datum) (typed : value.hasType [.int] = true) :
    (∃ truth, value = bool truth) ∨ ∃ number, value = int number := by
  cases value <;> simp_all [hasType, typeName, TypeName.isA]

theorem optionalInteger_cases (value : Datum) (typed : value.hasType [.int, .null] = true) :
    value = null ∨ (∃ truth, value = bool truth) ∨ ∃ number, value = int number := by
  cases value <;> simp_all [hasType, typeName, TypeName.isA]

theorem real_cases (value : Datum) (typed : value.hasType [.real] = true) :
    ∃ number, value = real number := by
  cases value <;> simp_all [hasType, typeName, TypeName.isA]

/-- Whether a value is no integer that is too long to be written out. -/
def hasFewDigits : Datum → Bool
  | int number => isShort number
  | _ => true

theorem written_of_integer (value : Datum) (typed : value.hasType [.int] = true) :
    value.written =
      if value.hasFewDigits then .ok value.display
      else .error (.tooManyDigits Platform.digits) := by
  rcases value.integer_cases typed with ⟨truth, rfl⟩ | ⟨number, rfl⟩
  · rfl
  · by_cases short : isShort number = true
    · simp only [written, unshown?_int, hasFewDigits, short, if_true]
    · simp only [written, unshown?_int, hasFewDigits, short, Bool.false_eq_true, if_false]
      rfl

theorem color_cases (value : Datum) (typed : value.hasType [.color] = true) :
    ∃ shade, value = color shade := by
  cases value <;> simp_all [hasType, typeName, TypeName.isA]

end Datum

namespace Payload

/-- Whether the fields of a payload have the types that they are declared with. -/
def wellTyped : Payload → Bool
  | itemId id => id.hasType [.int, .null]
  | color shade => shade.hasType [.color]
  | toggle active => active.hasType [.bool]
  | rawText words | text words | file words | resource words => words.hasType [.text, .null]
  | adjustment value lower upper step page digits slider =>
      [value, lower, upper, step, page].all (·.hasType [.real]) && digits.hasType [.int] &&
        slider.hasType [.bool]
  | brush name opacity spacing paintMode =>
      name.hasType [.text, .null] && opacity.hasType [.real] && spacing.hasType [.int] &&
        paintMode.hasType [.int]
  | option labels _ => labels.all (·.hasType [.text])
  | enum typeName _ => typeName.hasType [.text]

/-- Whether raw text, if it is given and not empty, reads as exactly one token on its own. -/
def rawReadable : Payload → Bool
  | rawText (.text words) =>
      words.isEmpty || (splitTokens words.toList).any fun tokens => tokens.length == 1
  | _ => true

/-- Whether a number is written with the decimal places asked for. -/
def hasPlaces : Payload → Bool
  | adjustment .. | brush .. => true
  | _ => false

/-- Whether the integers that are written for a payload are short enough. -/
def hasFewDigits : Payload → Bool
  | itemId id => id.hasFewDigits
  | brush _ _ spacing paintMode => spacing.hasFewDigits && paintMode.hasFewDigits
  | _ => true

/-- What a payload holds that is written as a quoted text. -/
def quotedText? : Payload → Option Datum
  | text words | file words | resource words => some words
  | _ => none

/-- What the reader finds in the text that is written for a payload. -/
structure TokenReads (payload : Payload) (written : String) (token : List Char) : Prop where
  alone : splitTokens written.toList = some [token]
  whole : payload.kind ≠ .rawText → token = written.toList
  unquotes : ∀ words, payload.quotedText? = some words →
    readQuoted token = some (words.textChars, [])
  brushParts : ∀ name opacity spacing paintMode,
    payload = brush name opacity spacing paintMode →
      ∃ inner first second third fourth, token = '\'' :: '(' :: inner ++ [')'] ∧
        splitTokens inner = some [first, second, third, fourth] ∧
        readQuoted first = some (name.textChars, [])

end Payload

/-! The texts written for single fields. -/

theorem textToken_ok (words : Datum) (typed : words.hasType [.text, .null] = true) :
    ∃ written, textToken words = .ok written ∧ written.toList = quoteChars words.textChars := by
  rcases words.optionalText_cases typed with rfl | ⟨words, rfl⟩
  · exact ⟨_, rfl, by simp [quote, Datum.textChars]⟩
  · exact ⟨_, rfl, by simp [quote, Datum.textChars]⟩

theorem isWord_displayBool (truth : Bool) : IsWord (displayBool truth).toList := by
  cases truth with
  | false => exact HasWordCodes.isWord (by decide) (by decide)
  | true => exact HasWordCodes.isWord (by decide) (by decide)

theorem isWord_integer (value : Datum) (typed : value.hasType [.int] = true) :
    IsWord value.display.toList := by
  rcases value.integer_cases typed with ⟨truth, rfl⟩ | ⟨number, rfl⟩
  · exact isWord_displayBool truth
  · exact isWord_intText number

theorem idToken_null : idToken .null = .ok (Datum.int noItemId).display := by
  have short : isShort noItemId = true := isShort_of_natAbs_lt (by decide)
  simp only [idToken, Datum.written, Datum.unshown?_int, short, if_true]

/-- An item is written as a word, unless its number is too long. -/
theorem idToken_cases (id : Datum) (typed : id.hasType [.int, .null] = true) :
    (id.hasFewDigits = true ∧ ∃ written, idToken id = .ok written ∧ IsWord written.toList) ∨
      (id.hasFewDigits = false ∧ idToken id = .error (.tooManyDigits Platform.digits)) := by
  rcases id.optionalInteger_cases typed with rfl | ⟨truth, rfl⟩ | ⟨number, rfl⟩
  · exact .inl ⟨rfl, _, idToken_null, isWord_intText noItemId⟩
  · exact .inl ⟨rfl, _, rfl, isWord_displayBool truth⟩
  · have asInteger := (Datum.int number).written_of_integer rfl
    change idToken (.int number) = _ at asInteger
    cases short : (Datum.int number).hasFewDigits with
    | true => exact .inl ⟨rfl, _, by rw [asInteger, short]; rfl, isWord_intText number⟩
    | false => exact .inr ⟨rfl, by rw [asInteger, short]; rfl⟩

theorem isWord_toggleToken (active : Datum) : IsWord (toggleToken active).toList := by
  unfold toggleToken
  split
  · exact HasWordCodes.isWord (by decide) (by decide)
  · exact HasWordCodes.isWord (by decide) (by decide)

theorem numberToken_ok (precision : Precision) (places : Nat) (value : Datum)
    (counted : precision.count = .ok places) (typed : value.hasType [.real] = true) :
    ∃ written, numberToken precision value = .ok written ∧ IsWord written.toList := by
  obtain ⟨number, rfl⟩ := value.real_cases typed
  refine ⟨String.ofList (number.fixed places), ?_, ?_⟩
  · simp only [numberToken, counted]
    rfl
  · rw [String.toList_ofList]
    exact isWord_fixed places number

/-! Lists of words. -/

theorem skipListTail_words (depth : Int) (words : List (List Char)) (rest : List Char)
    (each : ∀ word ∈ words, IsWord word) :
    skipListTail depth (words.flatMap (' ' :: ·) ++ rest) = skipListTail depth rest := by
  refine skipListTail_inert depth _ rest fun c member => ?_
  obtain ⟨word, present, inside⟩ := List.mem_flatMap.mp member
  rcases List.mem_cons.mp inside with rfl | inWord
  · decide
  · exact (each word present).inert c inWord

theorem splits_words (first : List Char) (words : List (List Char)) (valid : IsToken first)
    (each : ∀ word ∈ words, IsWord word) :
    Splits (first ++ words.flatMap (' ' :: ·)) (first :: words) := by
  have others : Splits (words.flatMap (' ' :: ·)) (words.map fun word => [word]).flatten := by
    refine splits_flatten words _ ?_
    rw [List.forall₂_map_right_iff, List.forall₂_same]
    exact fun word member => (each word member).isToken.splits
  rw [← List.flatMap_def, List.flatMap_singleton'] at others
  refine valid.splits.append others ?_
  cases words with
  | nil => rfl
  | cons word words => rfl

theorem isToken_listOfWords (first : List Char) (words : List (List Char))
    (passed : ∀ rest, skipListTail 1 (first ++ rest) = skipListTail 1 rest)
    (each : ∀ word ∈ words, IsWord word) :
    IsToken (listChars (first ++ words.flatMap (' ' :: ·))) := by
  refine isToken_listChars _ fun rest => ?_
  rw [List.append_assoc, passed, skipListTail_words 1 words rest each]

theorem isToken_colorToken (shade : Color) : IsToken shade.token.toList := by
  have written : shade.token.toList =
      listChars ((toString (Color.byteOfPart shade.red)).toList ++
        [(toString (Color.byteOfPart shade.green)).toList,
          (toString (Color.byteOfPart shade.blue)).toList].flatMap (' ' :: ·)) := by
    simp [Color.token, Color.bytes, listChars]
  rw [written]
  refine isToken_listOfWords _ _ (fun rest => ?_) fun word member => ?_
  · exact skipListTail_inert 1 _ rest (isWord_natText _).inert
  · simp only [List.mem_cons, List.not_mem_nil, or_false] at member
    rcases member with rfl | rfl
    · exact isWord_natText _
    · exact isWord_natText _

theorem brushToken_ok (precision : Precision) (places : Nat)
    (name opacity spacing paintMode : Datum)
    (counted : precision.count = .ok places) (named : name.hasType [.text, .null] = true)
    (real : opacity.hasType [.real] = true) (wholeSpacing : spacing.hasType [.int] = true)
    (wholeMode : paintMode.hasType [.int] = true) (shortSpacing : spacing.hasFewDigits = true)
    (shortMode : paintMode.hasFewDigits = true) :
    ∃ written shown,
      brushToken precision name opacity spacing paintMode = .ok written ∧ IsWord shown ∧
        written.toList = listChars (quoteChars name.textChars ++
          [shown, spacing.display.toList, paintMode.display.toList].flatMap (' ' :: ·)) := by
  obtain ⟨quoted, quotedOk, quotedEq⟩ := textToken_ok name named
  obtain ⟨number, numberOk, word⟩ := numberToken_ok precision places opacity counted real
  refine ⟨"'(" ++ quoted ++ " " ++ number ++ " " ++ spacing.display ++ " " ++
    paintMode.display ++ ")", number.toList, ?_, word, ?_⟩
  · simp only [brushToken, quotedOk, numberOk, spacing.written_of_integer wholeSpacing,
      paintMode.written_of_integer wholeMode, shortSpacing, shortMode, if_true]
    rfl
  · simp [listChars, quotedEq]

namespace Payload

/-! What the reader finds, payload by payload. -/

theorem tokenReads_plain (payload : Payload) (written : String)
    (valid : IsToken written.toList) (notQuoted : payload.quotedText? = none)
    (notBrush : payload.kind ≠ .brush) : TokenReads payload written written.toList := by
  refine ⟨?_, fun _ => rfl, fun words held => ?_, ?_⟩
  · exact (splitTokens_eq_some_iff _ _).mpr valid.splits
  · rw [notQuoted] at held
    cases held
  · rintro name opacity spacing paintMode rfl
    exact absurd rfl notBrush

theorem tokenReads_quoted (payload : Payload) (written : String) (words : Datum)
    (held : payload.quotedText? = some words)
    (quoted : written.toList = quoteChars words.textChars) :
    TokenReads payload written written.toList := by
  refine ⟨?_, fun _ => rfl, fun others same => ?_, ?_⟩
  · rw [splitTokens_eq_some_iff, quoted]
    exact (isToken_quoteChars words.textChars).splits
  · rw [held] at same
    cases same
    rw [quoted]
    simpa using readQuoted_quoteChars words.textChars []
  · rintro name opacity spacing paintMode rfl
    cases held

theorem tokenReads_brush (written : String) (name opacity spacing paintMode : Datum)
    (shown : List Char) (word : IsWord shown) (wholeSpacing : spacing.hasType [.int] = true)
    (wholeMode : paintMode.hasType [.int] = true)
    (listed : written.toList = listChars (quoteChars name.textChars ++
      [shown, spacing.display.toList, paintMode.display.toList].flatMap (' ' :: ·))) :
    TokenReads (brush name opacity spacing paintMode) written written.toList := by
  have each : ∀ text ∈ [shown, spacing.display.toList, paintMode.display.toList], IsWord text := by
    intro text member
    simp only [List.mem_cons, List.not_mem_nil, or_false] at member
    rcases member with rfl | rfl | rfl
    · exact word
    · exact isWord_integer spacing wholeSpacing
    · exact isWord_integer paintMode wholeMode
  refine ⟨?_, fun _ => rfl, ?_, ?_⟩
  · rw [splitTokens_eq_some_iff, listed]
    refine (isToken_listOfWords _ _ (fun rest => ?_) each).splits
    exact skipListTail_quoteChars 1 name.textChars rest
  · intro words held
    cases held
  · intro otherName otherOpacity otherSpacing otherMode same
    cases same
    refine ⟨_, quoteChars name.textChars, shown, spacing.display.toList,
      paintMode.display.toList, listed, ?_, ?_⟩
    · rw [splitTokens_eq_some_iff]
      exact splits_words _ _ (isToken_quoteChars name.textChars) each
    · simpa using readQuoted_quoteChars name.textChars []

theorem tokenReads_rawText (words : String) (notEmpty : words.isEmpty = false)
    (readable : (rawText (.text words)).rawReadable = true) :
    ∃ token, TokenReads (rawText (.text words)) words token := by
  simp only [rawReadable, notEmpty, Bool.false_or] at readable
  obtain ⟨tokens, split, single⟩ := (Option.any_eq_true _ _).mp readable
  obtain ⟨token, rfl⟩ := List.length_eq_one_iff.mp (by simpa using single)
  refine ⟨token, split, fun notRaw => absurd rfl notRaw, ?_, ?_⟩
  · intro others held
    cases held
  · intro name opacity spacing paintMode same
    cases same

theorem token_quoted (precision : Precision) (payload : Payload) (words : Datum)
    (held : payload.quotedText? = some words) :
    payload.token precision = (do return .text (← textToken words)) := by
  cases payload <;> cases held <;> rfl

theorem token_reads_quoted (precision : Precision) (payload : Payload) (words : Datum)
    (held : payload.quotedText? = some words) (typed : words.hasType [.text, .null] = true) :
    ∃ written token,
      payload.token precision = .ok (.text written) ∧ TokenReads payload written token := by
  obtain ⟨written, rendered, quoted⟩ := textToken_ok words typed
  refine ⟨written, _, ?_, tokenReads_quoted payload written words held quoted⟩
  rw [token_quoted precision payload words held, rendered]
  rfl

theorem token_reads_rawText (precision : Precision) (words : Datum)
    (typed : words.hasType [.text, .null] = true)
    (readable : (rawText words).rawReadable = true) :
    ∃ written token,
      (rawText words).token precision = .ok (.text written) ∧
        TokenReads (rawText words) written token := by
  have missing : IsToken (quote none).toList := by
    simpa [quote] using isToken_quoteChars []
  rcases words.optionalText_cases typed with rfl | ⟨words, rfl⟩
  · exact ⟨quote none, _, rfl, tokenReads_plain _ _ missing rfl nofun⟩
  · by_cases empty : words.length = 0
    · refine ⟨quote none, _, ?_, tokenReads_plain _ _ missing rfl nofun⟩
      change (if words.length = 0 then _ else _) = _
      rw [if_pos empty]
      rfl
    · have notEmpty : words.isEmpty = false := by
        rw [String.isEmpty_eq_false_iff]
        rintro rfl
        exact empty rfl
      obtain ⟨token, reads⟩ := tokenReads_rawText words notEmpty readable
      refine ⟨words, token, ?_, reads⟩
      change (if words.length = 0 then _ else _) = _
      rw [if_neg empty]
      rfl

/-- Every payload of declared types is written as a text that reads as one token. Only numbers
depend on the decimal places asked for, and only integers can be too long. -/
theorem token_reads (precision : Precision) (payload : Payload) (typed : payload.wellTyped = true)
    (readable : payload.rawReadable = true)
    (counted : payload.hasPlaces = true → ∃ places, precision.count = .ok places)
    (short : payload.hasFewDigits = true) :
    ∃ written token,
      payload.token precision = .ok (.text written) ∧ TokenReads payload written token := by
  cases payload with
  | itemId id =>
      obtain ⟨_, written, rendered, word⟩ | ⟨long, _⟩ := idToken_cases id typed
      · refine ⟨written, _, ?_, tokenReads_plain _ _ word.isToken rfl nofun⟩
        simp only [token, rendered]
        rfl
      · cases short.symm.trans long
  | color shade =>
      obtain ⟨shade, rfl⟩ := shade.color_cases typed
      exact ⟨shade.token, _, rfl, tokenReads_plain _ _ (isToken_colorToken shade) rfl nofun⟩
  | toggle active =>
      exact ⟨toggleToken active, _, rfl,
        tokenReads_plain _ _ (isWord_toggleToken active).isToken rfl nofun⟩
  | rawText words => exact token_reads_rawText precision words typed readable
  | text words => exact token_reads_quoted precision _ words rfl typed
  | adjustment value lower upper step page digits slider =>
      obtain ⟨places, counted⟩ := counted rfl
      simp only [wellTyped, List.all_cons, Bool.and_eq_true] at typed
      obtain ⟨written, rendered, word⟩ :=
        numberToken_ok precision places value counted typed.1.1.1
      refine ⟨written, _, ?_, tokenReads_plain _ _ word.isToken rfl nofun⟩
      simp only [token, rendered]
      rfl
  | file filename => exact token_reads_quoted precision _ filename rfl typed
  | resource name => exact token_reads_quoted precision _ name rfl typed
  | brush name opacity spacing paintMode =>
      obtain ⟨places, counted⟩ := counted rfl
      simp only [wellTyped, hasFewDigits, Bool.and_eq_true] at typed short
      obtain ⟨⟨⟨named, real⟩, wholeSpacing⟩, wholeMode⟩ := typed
      obtain ⟨written, shown, rendered, word, listed⟩ :=
        brushToken_ok precision places name opacity spacing paintMode counted named real
          wholeSpacing wholeMode short.1 short.2
      refine ⟨written, _, ?_, tokenReads_brush written name opacity spacing paintMode shown word
        wholeSpacing wholeMode listed⟩
      simp only [token, rendered]
      rfl
  | option labels selected =>
      exact ⟨toString selected, _, rfl,
        tokenReads_plain _ _ (isWord_natText selected).isToken rfl nofun⟩
  | enum typeName selected =>
      exact ⟨toString selected, _, rfl,
        tokenReads_plain _ _ (isWord_natText selected).isToken rfl nofun⟩

theorem counted_of_numberToken {precision : Precision} {value : Datum} {written : String}
    (rendered : numberToken precision value = .ok written) :
    ∃ places, precision.count = .ok places := by
  obtain ⟨places, counted, _⟩ := (Except.bind_eq_ok _ _ _).mp rendered
  exact ⟨places, counted⟩

/-- A payload of declared types that has a token needed no decimal places or got them, and has no
integer that is too long. -/
theorem counted_and_short_of_token {precision : Precision} {payload : Payload} {written : Datum}
    (typed : payload.wellTyped = true) (rendered : payload.token precision = .ok written) :
    (payload.hasPlaces = true → ∃ places, precision.count = .ok places) ∧
      payload.hasFewDigits = true := by
  cases payload with
  | itemId id =>
      refine ⟨nofun, ?_⟩
      obtain ⟨short, _⟩ | ⟨_, refused⟩ := idToken_cases id typed
      · exact short
      · simp only [token, refused] at rendered
        cases rendered
  | adjustment value lower upper step page digits slider =>
      obtain ⟨_, number, _⟩ := (Except.bind_eq_ok _ _ _).mp rendered
      exact ⟨fun _ => counted_of_numberToken number, rfl⟩
  | brush name opacity spacing paintMode =>
      simp only [wellTyped, Bool.and_eq_true] at typed
      obtain ⟨_, listed, _⟩ := (Except.bind_eq_ok _ _ _).mp rendered
      obtain ⟨_, _, listed⟩ := (Except.bind_eq_ok _ _ _).mp listed
      obtain ⟨_, number, listed⟩ := (Except.bind_eq_ok _ _ _).mp listed
      obtain ⟨_, spaced, listed⟩ := (Except.bind_eq_ok _ _ _).mp listed
      obtain ⟨_, painted, _⟩ := (Except.bind_eq_ok _ _ _).mp listed
      refine ⟨fun _ => counted_of_numberToken number, ?_⟩
      rw [spacing.written_of_integer typed.1.2] at spaced
      rw [paintMode.written_of_integer typed.2] at painted
      rw [hasFewDigits, Bool.and_eq_true]
      constructor
      · by_contra long
        rw [if_neg long] at spaced
        cases spaced
      · by_contra long
        rw [if_neg long] at painted
        cases painted
  | _ => exact ⟨nofun, rfl⟩

/-- A payload of declared types has a token unless its number cannot be written with the decimal
places asked for, or an integer in it is too long. -/
theorem token_eq_error {precision : Precision} {fault : Fault} {payload : Payload}
    (typed : payload.wellTyped = true) (readable : payload.rawReadable = true)
    (failed : payload.token precision = .error fault) :
    payload.hasPlaces = true ∧ precision.count = .error fault ∨
      payload.hasFewDigits = false ∧ fault = .tooManyDigits Platform.digits := by
  cases payload with
  | itemId id =>
      obtain ⟨_, _, rendered, _⟩ | ⟨long, refused⟩ := idToken_cases id typed
      · simp only [token, rendered] at failed
        cases failed
      · simp only [token, refused] at failed
        cases failed
        exact .inr ⟨long, rfl⟩
  | adjustment value lower upper step page digits slider =>
      cases counted : precision.count with
      | ok places =>
          obtain ⟨_, _, rendered, _⟩ :=
            token_reads precision _ typed readable (fun _ => ⟨places, counted⟩) rfl
          cases rendered.symm.trans failed
      | error cause =>
          simp only [token, numberToken, counted] at failed
          cases failed
          exact .inl ⟨rfl, rfl⟩
  | brush name opacity spacing paintMode =>
      have whole := typed
      simp only [wellTyped, Bool.and_eq_true] at whole
      obtain ⟨⟨⟨named, real⟩, wholeSpacing⟩, wholeMode⟩ := whole
      obtain ⟨quoted, asText, _⟩ := textToken_ok name named
      cases counted : precision.count with
      | ok places =>
          refine .inr ?_
          obtain ⟨_, asNumber, _⟩ := numberToken_ok precision places opacity counted real
          simp only [token, brushToken, asText, asNumber, hasFewDigits,
            spacing.written_of_integer wholeSpacing, paintMode.written_of_integer wholeMode]
            at failed ⊢
          cases shortSpacing : spacing.hasFewDigits <;> cases shortMode : paintMode.hasFewDigits <;>
            simp only [shortSpacing, shortMode] at failed <;> cases failed <;>
            exact ⟨rfl, rfl⟩
      | error cause =>
          simp only [token, brushToken, asText, numberToken, counted] at failed
          cases failed
          exact .inl ⟨rfl, rfl⟩
  | _ =>
      obtain ⟨_, _, rendered, _⟩ := token_reads precision _ typed readable nofun rfl
      cases rendered.symm.trans failed

end Payload

end ScriptCatalog
