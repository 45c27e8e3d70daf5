import ScriptCatalog.Proofs.Json.Numbers
import ScriptCatalog.Proofs.Json.Texts
import ScriptCatalog.Proofs.Keyed

/-! Documents of plain values under their keys. What is written is read back: the same keys in the
same order, and under each the same value with its type. -/

namespace ScriptCatalog

variable [Platform]

namespace Json

def ofScalar : Scalar → Json
  | .bool value => bool value
  | .int value => int value
  | .real value => real value
  | .text value => string value

theorem ofJson_ofScalar (value : Scalar) :
    Datum.ofJson (ofScalar value) = Datum.ofScalar value := by
  cases value <;> rfl

/-! Values. -/

variable {rest : List Char}

/-- Text that starts as a number does: with a digit, perhaps after a sign. -/
def StartsNumber (input : List Char) : Prop :=
  ∃ negative first rest, input = Binary64.signChars negative ++ first :: rest ∧
    first.isDigit = true

theorem StartsNumber.ne_cons {input : List Char} (starts : StartsNumber input) {c : Char}
    (plain : c.isDigit = false) (noSign : c ≠ '-') (after : List Char) : input ≠ c :: after := by
  obtain ⟨negative, first, rest, rfl, digit⟩ := starts
  intro same
  cases negative with
  | true => exact noSign (List.cons.inj same).1.symm
  | false => exact ne_of_isDigit digit plain (List.cons.inj same).1

theorem StartsNumber.ne_minus {input : List Char} (starts : StartsNumber input) {c : Char}
    (plain : c.isDigit = false) (after : List Char) : input ≠ '-' :: c :: after := by
  obtain ⟨negative, first, rest, rfl, digit⟩ := starts
  intro same
  cases negative with
  | true => exact ne_of_isDigit digit plain (List.cons.inj (List.cons.inj same).2).1
  | false =>
      have unsigned : first ≠ '-' := ne_of_isDigit digit rfl
      exact unsigned (List.cons.inj same).1

/-- What a number is read as, unless it is an integer that is too long. -/
theorem readValue_of_startsNumber {input rest : List Char} {value : Json}
    (starts : StartsNumber input) (fuel room : Nat)
    (number : readNumber? input = some (value, rest))
    (short : ∀ integer, value = int integer → isShort integer = true) :
    readValue (fuel + 1) room input = .ok (value, rest) := by
  rw [readValue.eq_def]
  dsimp only
  split
  case h_10 =>
    rw [number]
    cases value with
    | int integer => simp only [short integer rfl, if_true]
    | _ => rfl
  case h_9 => exact absurd rfl (starts.ne_minus rfl _)
  all_goals exact absurd rfl (starts.ne_cons rfl (by decide) _)

theorem startsNumber_writeInt (value : Int) : StartsNumber (writeInt value ++ rest) := by
  obtain ⟨first, digits, written⟩ := List.exists_cons_of_ne_nil
    (Nat.toDigits_ne_nil (n := value.natAbs) (b := 10))
  refine ⟨decide (value < 0), first, digits ++ rest, ?_, ?_⟩
  · rw [writeInt, written, List.append_assoc, List.cons_append]
  · refine Nat.isDigit_of_mem_toDigits (b := 10) (by decide) (by decide) (n := value.natAbs) ?_
    rw [written]
    exact List.mem_cons_self

theorem startsNumber_writeReal (negative : Bool) (exponent : Fin 2047)
    (fraction : Fin (Nat.pow 2 52)) :
    StartsNumber (writeReal (.finite negative exponent fraction) ++ rest) := by
  obtain ⟨numeral, proper, _, text, _⟩ := Binary64.exists_shortestChars exponent fraction
  obtain ⟨first, digits, whole, digit⟩ := proper.exists_first
  obtain ⟨after, written⟩ : ∃ after, numeral.text = first :: after := by
    rw [Numeral.text, whole]
    exact ⟨_, rfl⟩
  refine ⟨negative, first, after ++ rest, ?_, digit⟩
  change Binary64.signChars negative ++
    Binary64.shortestChars (Binary64.units exponent fraction) ++ rest = _
  rw [← text, written, List.append_assoc, List.cons_append]

/-- A value that is written is read back, with its type. -/
theorem readValue_writeScalar {value : Scalar} (can : canWrite value = true) {fuel : Nat}
    (room : Nat) (enough : (writeScalar value).length < fuel) (ends : EndsValue rest) :
    readValue fuel room (writeScalar value ++ rest) = .ok (ofScalar value, rest) := by
  obtain ⟨fuel, rfl⟩ := Nat.exists_eq_succ_of_ne_zero (Nat.ne_of_gt (Nat.zero_lt_of_lt enough))
  cases value with
  | bool value =>
      cases value with
      | true => rfl
      | false => rfl
  | int value =>
      exact readValue_of_startsNumber (startsNumber_writeInt value) fuel room
        (readNumber?_writeInt value ends) fun _ same => by cases same; exact can
  | real value =>
      cases value with
      | nan => rfl
      | infinite negative =>
          cases negative with
          | true => rfl
          | false => rfl
      | finite negative exponent fraction =>
          exact readValue_of_startsNumber (startsNumber_writeReal negative exponent fraction) fuel
            room (readNumber?_writeReal negative exponent fraction ends) nofun
  | text value =>
      have read := readQuotedText_writeText rest (Nat.le_of_lt_succ enough)
      refine (Except.bind_eq_ok _ _ _).mpr ⟨_, read, ?_⟩
      have same : String.ofList value.toList = value := String.ofList_toList
      exact congrArg (fun text => Except.ok (string text, rest)) same

/-! Fields. -/

theorem skipSpace_cons {c : Char} (plain : isSpace c = false) (rest : List Char) :
    skipSpace (c :: rest) = c :: rest :=
  List.dropWhile_cons_of_neg (Bool.not_eq_true _ ▸ plain)

theorem StartsNumber.skipSpace_eq {input : List Char} (starts : StartsNumber input) :
    skipSpace input = input := by
  obtain ⟨negative, first, rest, rfl, digit⟩ := starts
  cases negative with
  | true => rfl
  | false =>
      refine skipSpace_cons ?_ rest
      simp only [isSpace, Bool.or_eq_false_iff, beq_eq_false_iff_ne]
      exact ⟨⟨⟨ne_of_isDigit digit rfl, ne_of_isDigit digit rfl⟩, ne_of_isDigit digit rfl⟩,
        ne_of_isDigit digit rfl⟩

/-- The one space before a value is not part of it. -/
theorem skipSpace_writeScalar (value : Scalar) (rest : List Char) :
    skipSpace (' ' :: (writeScalar value ++ rest)) = writeScalar value ++ rest := by
  change skipSpace (writeScalar value ++ rest) = _
  cases value with
  | bool value => cases value <;> rfl
  | int value => exact (startsNumber_writeInt value).skipSpace_eq
  | real value =>
      cases value with
      | nan => rfl
      | infinite negative => cases negative <;> rfl
      | finite negative exponent fraction =>
          exact (startsNumber_writeReal negative exponent fraction).skipSpace_eq
  | text value => rfl

/-- A field as it is written, without the space before it. -/
def fieldText (key : String) (value : Scalar) : List Char :=
  writeText key ++ ':' :: ' ' :: writeScalar value

section

variable {fuel room : Nat} {key : String} {value : Scalar}
  (enough : (fieldText key value).length < fuel)

include enough

theorem readQuotedText_fieldText (rest : List Char) :
    readQuotedText fuel (fieldText key value ++ rest) =
      .ok (key.toList, ':' :: ' ' :: (writeScalar value ++ rest)) := by
  rw [fieldText, List.append_assoc]
  refine readQuotedText_writeText _ ?_
  rw [fieldText, List.length_append] at enough
  omega

theorem readValue_fieldText (can : canWrite value = true) {rest : List Char}
    (ends : EndsValue rest) :
    readValue fuel room (skipSpace (' ' :: (writeScalar value ++ rest))) =
      .ok (ofScalar value, rest) := by
  rw [skipSpace_writeScalar]
  refine readValue_writeScalar can room ?_ ends
  rw [fieldText, List.length_append, List.length_cons, List.length_cons] at enough
  omega

/-- The last field is followed by the end of its line and the brace. -/
theorem readFields_last (can : canWrite value = true) (rest : List Char) :
    readFields (fuel + 1) room (fieldText key value ++ '\n' :: '\x7d' :: rest) =
      .ok ([(key, ofScalar value)], rest) := by
  refine (Except.bind_eq_ok _ _ _).mpr ⟨_, readQuotedText_fieldText enough _, ?_⟩
  refine (Except.bind_eq_ok _ _ _).mpr ⟨_, readValue_fieldText enough can (.line _), ?_⟩
  have same : String.ofList key.toList = key := String.ofList_toList
  exact congrArg (fun key => Except.ok ([(key, ofScalar value)], rest)) same

/-- Any other field is followed by a comma and the next one. -/
theorem readFields_comma (can : canWrite value = true) {more last : List Char}
    {others : List (String × Json)}
    (read : readFields fuel room (skipSpace more) = .ok (others, last)) :
    readFields (fuel + 1) room (fieldText key value ++ ',' :: more) =
      .ok ((key, ofScalar value) :: others, last) := by
  refine (Except.bind_eq_ok _ _ _).mpr ⟨_, readQuotedText_fieldText enough _, ?_⟩
  refine (Except.bind_eq_ok _ _ _).mpr ⟨_, readValue_fieldText enough can (.comma _), ?_⟩
  refine (Except.bind_eq_ok _ _ _).mpr ⟨_, read, ?_⟩
  have same : String.ofList key.toList = key := String.ofList_toList
  exact congrArg (fun key => Except.ok ((key, ofScalar value) :: others, last)) same

end

def ofFields (fields : List (String × Scalar)) : List (String × Json) :=
  fields.map fun field => (field.1, ofScalar field.2)

theorem skipSpace_writeField (key : String) (value : Scalar) (rest : List Char) :
    skipSpace (writeField key value ++ rest) = fieldText key value ++ rest := rfl

theorem length_fieldText_lt (key : String) (value : Scalar) :
    (fieldText key value).length < (writeField key value).length := by
  have length : (writeField key value).length = (fieldText key value).length + 5 := by
    simp [writeField, fieldText]
  omega

theorem writeFields_cons_cons (key : String) (value : Scalar) (next : String × Scalar)
    (others : List (String × Scalar)) :
    writeFields ((key, value) :: next :: others) =
      writeField key value ++ ',' :: writeFields (next :: others) := rfl

/-- Fields are read back in their order, up to the brace that closes them. -/
theorem readFields_writeFields {fields : List (String × Scalar)} (some : fields ≠ [])
    (can : ∀ field ∈ fields, canWrite field.2 = true) {fuel : Nat} (room : Nat) (rest : List Char)
    (enough : (writeFields fields).length < fuel) :
    readFields fuel room (skipSpace (writeFields fields ++ '\x7d' :: rest)) =
      .ok (ofFields fields, rest) := by
  induction fields generalizing fuel with
  | nil => exact absurd rfl some
  | cons field others ih =>
      obtain ⟨key, value⟩ := field
      obtain ⟨fuel, rfl⟩ :=
        Nat.exists_eq_succ_of_ne_zero (Nat.ne_of_gt (Nat.zero_lt_of_lt enough))
      have shorter := length_fieldText_lt key value
      have canFirst : canWrite value = true := can (key, value) List.mem_cons_self
      cases others with
      | nil =>
          rw [writeFields, List.length_append, List.length_singleton] at enough
          rw [writeFields, List.append_assoc, skipSpace_writeField]
          exact readFields_last (by omega) canFirst rest
      | cons next others =>
          rw [writeFields_cons_cons, List.length_append, List.length_cons] at enough
          rw [writeFields_cons_cons, List.append_assoc, skipSpace_writeField]
          exact readFields_comma (by omega) canFirst
            (ih (List.cons_ne_nil _ _)
              (fun field member => can field (List.mem_cons_of_mem _ member)) (by omega))

/-! Documents. -/

theorem foldl_putField {κ α : Type} [BEq κ] [LawfulBEq κ] {fields known : List (κ × α)}
    (distinct : (keysOf (known ++ fields)).Nodup) :
    fields.foldl (fun known field => putField field.1 field.2 known) known = known ++ fields := by
  induction fields generalizing known with
  | nil => exact (List.append_nil known).symm
  | cons field fields ih =>
      have new : field.1 ∉ keysOf known := by
        intro there
        have apart := distinct
        rw [keysOf, List.map_append, List.nodup_append] at apart
        exact apart.2.2 field.1 there field.1 List.mem_cons_self rfl
      rw [List.append_cons] at distinct
      rw [List.foldl_cons, putField_of_not_mem field.2 new, ih distinct, List.append_assoc]
      rfl

theorem keysOf_ofFields (fields : List (String × Scalar)) :
    keysOf (ofFields fields) = keysOf fields := by
  simp [ofFields, keysOf]

theorem exists_skipSpace_writeFields {fields : List (String × Scalar)} (some : fields ≠ [])
    (rest : List Char) : ∃ after, skipSpace (writeFields fields ++ rest) = '"' :: after := by
  match fields, some with
  | [(key, value)], _ => exact ⟨_, rfl⟩
  | (key, value) :: next :: others, _ => exact ⟨_, rfl⟩

theorem readValue_writeFields {fields : List (String × Scalar)}
    (distinct : (keysOf fields).Nodup) (can : ∀ field ∈ fields, canWrite field.2 = true)
    {fuel : Nat} (room : Nat) (enough : (writeFields fields).length < fuel) (rest : List Char) :
    readValue (fuel + 1) (room + 1) ('\x7b' :: (writeFields fields ++ '\x7d' :: rest)) =
      .ok (object (ofFields fields), rest) := by
  by_cases some : fields = []
  · rw [some]
    rfl
  · obtain ⟨after, opens⟩ := exists_skipSpace_writeFields some ('\x7d' :: rest)
    have read := readFields_writeFields some can room rest enough
    have same : (ofFields fields).foldl (fun known field => putField field.1 field.2 known) [] =
        ofFields fields :=
      foldl_putField (by rw [List.nil_append, keysOf_ofFields]; exact distinct)
    rw [opens] at read
    rw [readValue, opens]
    refine (Except.bind_eq_ok _ _ _).mpr ⟨_, read, ?_⟩
    exact congrArg (fun fields => Except.ok (object fields, rest)) same

/-! The characters of values that are no texts: letters and digits, signs and points. -/

def isPlain (c : Char) : Bool := c.isAlphanum || c == '+' || c == '-' || c == '.'

theorem isPlain_of_isDigit {c : Char} (digit : c.isDigit = true) : isPlain c = true := by
  simp [isPlain, Char.isAlphanum, digit]

theorem isPlain_of_mem_signChars {negative : Bool} {c : Char}
    (member : c ∈ Binary64.signChars negative) : isPlain c = true := by
  cases negative with
  | true => cases List.mem_singleton.mp member; rfl
  | false => cases member

theorem isPlain_of_mem_text {numeral : Numeral} (proper : numeral.IsProper) :
    ∀ c ∈ numeral.text, isPlain c = true := by
  have whole : ∀ c ∈ numeral.whole, isPlain c = true := by
    rcases proper.whole with zero | significant
    · rw [zero]
      exact List.all_eq_true.mp rfl
    · exact fun c member => isPlain_of_isDigit (significant.each c member)
  have exponent : ∀ c ∈ numeral.exponent.elim [] Binary64.exponentChars, isPlain c = true := by
    cases numeral.exponent with
    | none => exact fun _ member => absurd member List.not_mem_nil
    | some exponent =>
        obtain ⟨sign, first, digits, text, signed, each, _⟩ := exists_exponentChars exponent
        have plainSign : isPlain sign = true := by
          rcases (Bool.or_eq_true _ _).mp signed with plus | minus
          · rw [eq_of_beq plus]
            rfl
          · rw [eq_of_beq minus]
            rfl
        rw [Option.elim_some, text]
        refine List.forall_mem_cons.mpr ⟨rfl, List.forall_mem_cons.mpr ⟨plainSign, ?_⟩⟩
        exact fun c member => isPlain_of_isDigit (each c member)
  intro c member
  rw [Numeral.text, List.mem_append, List.mem_append] at member
  rcases member with (inWhole | inPart) | inExponent
  · exact whole c inWhole
  · split at inPart
    · cases inPart
    · rcases List.mem_cons.mp inPart with rfl | digit
      · rfl
      · exact isPlain_of_isDigit (proper.part c digit)
  · exact exponent c inExponent

theorem isPlain_of_mem_writeScalar {value : Scalar} (noText : ∀ words, value ≠ .text words) :
    ∀ c ∈ writeScalar value, isPlain c = true := by
  cases value with
  | bool value => cases value <;> exact List.all_eq_true.mp rfl
  | int value =>
      intro c member
      rcases List.mem_append.mp member with sign | digit
      · exact isPlain_of_mem_signChars sign
      · exact isPlain_of_isDigit (Nat.isDigit_of_mem_toDigits (by decide) (by decide) digit)
  | real value =>
      cases value with
      | nan => exact List.all_eq_true.mp rfl
      | infinite negative => cases negative <;> exact List.all_eq_true.mp rfl
      | finite negative exponent fraction =>
          obtain ⟨numeral, proper, _, text, _⟩ := Binary64.exists_shortestChars exponent fraction
          intro c member
          change c ∈ Binary64.signChars negative ++
            Binary64.shortestChars (Binary64.units exponent fraction) at member
          rw [← text] at member
          rcases List.mem_append.mp member with sign | inText
          · exact isPlain_of_mem_signChars sign
          · exact isPlain_of_mem_text proper c inText
  | text value => exact absurd rfl (noText value)

/-! Halves of surrogate pairs. Nothing that is written has one. -/

theorem holdsHalfPair_writeScalar_append (value : Scalar) (rest : List Char) :
    holdsHalfPair (writeScalar value ++ rest) = holdsHalfPair rest := by
  by_cases noText : ∀ words, value ≠ .text words
  · refine holdsHalfPair_append (fun member => ?_) rest
    exact absurd (isPlain_of_mem_writeScalar noText _ member) (by decide)
  · obtain ⟨words, same⟩ := not_forall.mp noText
    rw [not_not.mp same]
    exact holdsHalfPair_writeText_append words rest

theorem holdsHalfPair_writeField_append (key : String) (value : Scalar) (rest : List Char) :
    holdsHalfPair (writeField key value ++ rest) = holdsHalfPair rest := by
  have split : writeField key value ++ rest = ('\n' :: List.replicate 4 ' ') ++
      (writeText key ++ ([':', ' '] ++ (writeScalar value ++ rest))) := by
    simp [writeField]
  rw [split, holdsHalfPair_append (by decide), holdsHalfPair_writeText_append,
    holdsHalfPair_append (by decide), holdsHalfPair_writeScalar_append]

theorem holdsHalfPair_writeFields_append (fields : List (String × Scalar)) (rest : List Char) :
    holdsHalfPair (writeFields fields ++ rest) = holdsHalfPair rest := by
  induction fields with
  | nil => rfl
  | cons field others ih =>
      obtain ⟨key, value⟩ := field
      cases others with
      | nil =>
          rw [writeFields, List.append_assoc, holdsHalfPair_writeField_append]
          exact holdsHalfPair_append (by decide) rest
      | cons next others =>
          have comma : ',' :: (writeFields (next :: others) ++ rest) =
              [','] ++ (writeFields (next :: others) ++ rest) := rfl
          rw [writeFields_cons_cons, List.append_assoc, List.cons_append,
            holdsHalfPair_writeField_append, comma, holdsHalfPair_append (by decide), ih]

theorem holdsHalfPair_write (fields : List (String × Scalar)) :
    holdsHalfPair (write fields).toList = false := by
  have split : (write fields).toList = ['\x7b'] ++ (writeFields fields ++ (['\x7d'] ++ [])) := by
    rw [write, String.toList_ofList]
    simp
  rw [split, holdsHalfPair_append (by decide), holdsHalfPair_writeFields_append,
    holdsHalfPair_append (by decide)]
  rfl

/-- A document that is written is read back, if no integer in it is too long to be written. -/
theorem read_write {fields : List (String × Scalar)} (distinct : (keysOf fields).Nodup)
    (can : ∀ field ∈ fields, canWrite field.2 = true) :
    read (write fields) = .ok (object (ofFields fields)) := by
  have text : (write fields).toList = '\x7b' :: (writeFields fields ++ ['\x7d']) := by
    rw [write, String.toList_ofList, List.cons_append]
  have enough : (writeFields fields).length < 2 * (write fields).toList.length := by
    rw [text, List.length_cons, List.length_append]
    omega
  obtain ⟨room, roomEq⟩ := Nat.exists_eq_succ_of_ne_zero (Nat.ne_of_gt Platform.reading_pos)
  have value := readValue_writeFields distinct can room enough []
  have document : readDocument (write fields).toList = .ok (object (ofFields fields)) := by
    rw [text] at value
    rw [readDocument, text, if_neg (by simp), roomEq]
    exact (Except.bind_eq_ok _ _ _).mpr ⟨_, value, rfl⟩
  simp only [read, document, holdsHalfPair_write, Bool.false_eq_true, if_false]

theorem read_no_fields : read "\x7b\x7d" = .ok (object []) := by
  have written : write [] = "\x7b\x7d" := by decide
  have distinct : (keysOf ([] : List (String × Scalar))).Nodup := List.nodup_nil
  rw [← written, read_write distinct (List.forall_mem_nil _), ofFields, List.map_nil]

/-- What the reader finds in a text is known by comparing it with the value that should be there. -/
theorem read_eq_ok_of_same {text : String} {value : Json}
    (found : (read text).toOption.any (same value) = true) : read text = .ok value := by
  cases document : read text with
  | error fault =>
      rw [document] at found
      cases found
  | ok held =>
      rw [document] at found
      exact congrArg Except.ok (eq_of_same found).symm

/-! Line ends. The lines of a document are ended by line feeds, and line ends in texts are
escaped. -/

theorem return_not_mem_writeText (text : String) : '\r' ∉ writeText text := by
  have body : '\r' ∉ text.toList.flatMap escapedChar := by
    intro member
    obtain ⟨c, _, there⟩ := List.mem_flatMap.mp member
    exact (escapes_escapedChar c).return_not_mem there
  rw [writeText, List.cons_append, List.mem_cons, List.mem_append]
  exact not_or_intro (by decide) (not_or_intro body (by decide))

theorem return_not_mem_writeScalar (value : Scalar) : '\r' ∉ writeScalar value := by
  by_cases noText : ∀ words, value ≠ .text words
  · exact fun member => absurd (isPlain_of_mem_writeScalar noText _ member) (by decide)
  · obtain ⟨words, same⟩ := not_forall.mp noText
    rw [not_not.mp same]
    exact return_not_mem_writeText words

theorem return_not_mem_writeField (key : String) (value : Scalar) :
    '\r' ∉ writeField key value := by
  simp only [writeField, List.cons_append, List.mem_cons, List.mem_append, List.mem_replicate]
  simp [return_not_mem_writeText, return_not_mem_writeScalar]

theorem return_not_mem_writeFields (fields : List (String × Scalar)) :
    '\r' ∉ writeFields fields := by
  induction fields with
  | nil => exact List.not_mem_nil
  | cons field others ih =>
      obtain ⟨key, value⟩ := field
      have first := return_not_mem_writeField key value
      cases others with
      | nil =>
          rw [writeFields, List.mem_append]
          exact not_or_intro first (by decide)
      | cons next others =>
          rw [writeFields_cons_cons, List.mem_append, List.mem_cons]
          exact not_or_intro first (not_or_intro (by decide) ih)

theorem return_not_mem_write (fields : List (String × Scalar)) :
    '\r' ∉ (write fields).toList := by
  rw [write, String.toList_ofList, List.cons_append, List.mem_cons, List.mem_append]
  exact not_or_intro (by decide)
    (not_or_intro (return_not_mem_writeFields fields) (by decide))

/-! Keys that are repeated count once. -/

theorem nodup_foldl_putField {κ α : Type} [BEq κ] [LawfulBEq κ] (fields : List (κ × α))
    {known : List (κ × α)} (distinct : (keysOf known).Nodup) :
    (keysOf (fields.foldl (fun known field => putField field.1 field.2 known) known)).Nodup := by
  induction fields generalizing known with
  | nil => exact distinct
  | cons field fields ih => exact ih (nodup_keysOf_putField field.1 field.2 distinct)

/-- A number is read as an integer or as a real one. -/
theorem readNumber?_cases {input rest : List Char} {value : Json}
    (read : readNumber? input = some (value, rest)) :
    (∃ number, value = int number) ∨ ∃ number, value = real number := by
  revert read
  unfold readNumber?
  dsimp only
  generalize (input.head? == some '-') = negative
  generalize (if negative = true then input.tail else input) = body
  generalize wholeDigits body = whole
  generalize pointDigits (body.drop whole.length) = part
  generalize (body.drop whole.length).drop (if part.isEmpty = true then 0 else part.length + 1) =
    later
  split
  · rintro ⟨⟩
  · split
    · rintro ⟨⟩
      exact .inl ⟨_, rfl⟩
    · rintro ⟨⟩
      exact .inr ⟨_, rfl⟩

theorem nodup_of_readValue {fuel room : Nat} {input rest : List Char}
    {fields : List (String × Json)} (read : readValue fuel room input = .ok (object fields, rest)) :
    (keysOf fields).Nodup := by
  -- Only text that opens with a brace is read as an object, empty or with its fields put in one by
  -- one; each other way of reading a value ends in a value of another kind.
  rw [readValue.eq_def] at read
  split at read
  · cases read
  · dsimp only at read
    split at read
    · obtain ⟨_, _, read⟩ := (Except.bind_eq_ok _ _ _).mp read
      cases read
    · split at read
      · cases read
      · split at read
        · cases read
        · obtain ⟨_, _, read⟩ := (Except.bind_eq_ok _ _ _).mp read
          cases read
    · split at read
      · cases read
      · split at read
        · cases read
          exact List.nodup_nil
        · obtain ⟨⟨written, after⟩, _, read⟩ := (Except.bind_eq_ok _ _ _).mp read
          cases read
          exact nodup_foldl_putField written List.nodup_nil
    · cases read
    · cases read
    · cases read
    · cases read
    · cases read
    · cases read
    · split at read
      · split at read
        · cases read
        · cases read
      next number =>
        cases read
        rcases readNumber?_cases number with ⟨_, ⟨⟩⟩ | ⟨_, ⟨⟩⟩
      next => cases read

/-- What a text is read as was read in it. -/
theorem exists_readValue_of_read {text : String} {value : Json}
    (read : Json.read text = .ok value) :
    ∃ fuel room input rest, readValue fuel room input = .ok (value, rest) := by
  rw [Json.read] at read
  cases found : readDocument text.toList with
  | error stop =>
      rw [found] at read
      cases read
  | ok document =>
      rw [found] at read
      dsimp only at read
      split at read
      · cases read
      cases read
      rw [readDocument] at found
      split at found
      · cases found
      · obtain ⟨⟨held, rest⟩, value_read, found⟩ := (Except.bind_eq_ok _ _ _).mp found
        dsimp only at found
        split at found
        · cases found
          exact ⟨_, _, _, _, value_read⟩
        · cases found

/-- Of an object that was read no key is there twice. -/
theorem nodup_of_read {text : String} {fields : List (String × Json)}
    (read : Json.read text = .ok (object fields)) : (keysOf fields).Nodup := by
  obtain ⟨_, _, _, _, found⟩ := exists_readValue_of_read read
  exact nodup_of_readValue found

end Json

end ScriptCatalog
