import ScriptCatalog.Proofs.Command.Reading

/-! Quoted texts and lists as tokens: a quoted text is read back as it was, and neither its
characters nor those of a list can end the token that they stand in. -/

namespace ScriptCatalog

theorem readQuotedTail_plain (c : Char) (rest : List Char) (plain : needsEscape c = false) :
    readQuotedTail (c :: rest) =
      (readQuotedTail rest).map fun (text, after) => (c :: text, after) := by
  have notQuote : c ≠ '"' := by
    rintro rfl
    exact absurd plain (by decide)
  have notBackslash : c ≠ '\\' := by
    rintro rfl
    exact absurd plain (by decide)
  rw [readQuotedTail]
  · exact notQuote
  · exact fun backslash => absurd backslash notBackslash
  · exact fun _ _ backslash => absurd backslash notBackslash

theorem readQuotedTail_escapeChars (text rest : List Char) :
    readQuotedTail (escapeChars text ++ '"' :: rest) = some (text, rest) := by
  induction text with
  | nil => rfl
  | cons c text ih =>
      by_cases needed : needsEscape c = true
      · simp [escapeChars, needed, readQuotedTail, ih]
      · have plain : needsEscape c = false := by simpa using needed
        rw [escapeChars, if_neg needed, List.cons_append, readQuotedTail_plain c _ plain, ih]
        rfl

theorem quoteChars_append (text rest : List Char) :
    quoteChars text ++ rest = '"' :: (escapeChars text ++ '"' :: rest) := by
  simp [quoteChars]

/-- A quoted text is read back as it was, whatever follows it. -/
theorem readQuoted_quoteChars (text rest : List Char) :
    readQuoted (quoteChars text ++ rest) = some (text, rest) := by
  rw [quoteChars_append]
  exact readQuotedTail_escapeChars text rest

theorem skipQuotedTail_eq (text : List Char) :
    skipQuotedTail text = (readQuotedTail text).map (·.2) := by
  fun_induction skipQuotedTail text with
  | case1 => rfl
  | case2 => rfl
  | case3 => rfl
  | case4 c tail ih =>
      rw [ih, readQuotedTail, Option.map_map]
      rfl
  | case5 c tail notQuote notLast notEscape ih =>
      rw [ih, readQuotedTail, Option.map_map]
      · rfl
      · exact notQuote
      · exact notLast
      · exact notEscape

theorem skipQuotedTail_escapeChars (text rest : List Char) :
    skipQuotedTail (escapeChars text ++ '"' :: rest) = some rest := by
  rw [skipQuotedTail_eq, readQuotedTail_escapeChars]
  rfl

theorem isToken_quoteChars (text : List Char) : IsToken (quoteChars text) := by
  refine ⟨rfl, fun rest _ => ?_⟩
  rw [quoteChars_append]
  exact skipQuotedTail_escapeChars text rest

/-! Lists. -/

theorem skipListTail_quoteChars (depth : Int) (text rest : List Char) :
    skipListTail depth (quoteChars text ++ rest) = skipListTail depth rest := by
  rw [quoteChars_append, skipListTail_quote, skipQuotedTail_escapeChars]
  rfl

/-- A character that neither opens nor closes anything. -/
def isInert (c : Char) : Bool := c != '"' && c != '(' && c != ')' && c != '\''

theorem isInert_iff (c : Char) :
    isInert c = true ↔ c ≠ '"' ∧ c ≠ '(' ∧ c ≠ ')' ∧ c ≠ '\'' := by
  simp [isInert, and_assoc]

theorem skipListTail_inert (depth : Int) (text rest : List Char)
    (inert : ∀ c ∈ text, isInert c = true) :
    skipListTail depth (text ++ rest) = skipListTail depth rest := by
  induction text with
  | nil => rfl
  | cons c text ih =>
      obtain ⟨notQuote, notOpen, notClose, _⟩ := (isInert_iff c).mp (inert c (by simp))
      rw [List.cons_append, skipListTail_other depth c _ notQuote notOpen notClose]
      exact ih fun other member => inert other (by simp [member])

def listChars (inner : List Char) : List Char := '\'' :: '(' :: inner ++ [')']

theorem isToken_listChars (inner : List Char)
    (closed : ∀ rest, skipListTail 1 (inner ++ rest) = skipListTail 1 rest) :
    IsToken (listChars inner) := by
  refine ⟨rfl, fun rest _ => ?_⟩
  have listed : listChars inner ++ rest = '\'' :: '(' :: (inner ++ ')' :: rest) := by
    simp [listChars]
  rw [listed]
  change skipListTail 0 ('(' :: (inner ++ ')' :: rest)) = some rest
  rw [skipListTail_open]
  change skipListTail 1 (inner ++ ')' :: rest) = some rest
  rw [closed, skipListTail_close]
  rfl

/-! Words. -/

/-- A text of a word: neither blank nor empty, and without marks. -/
structure IsWord (text : List Char) : Prop where
  notNil : text ≠ []
  inert : ∀ c ∈ text, isInert c = true
  nonBlank : ∀ c ∈ text, isBlank c = false

theorem IsWord.isToken {text : List Char} (word : IsWord text) : IsToken text := by
  cases text with
  | nil => exact absurd rfl word.notNil
  | cons first tail =>
      obtain ⟨notQuote, notOpen, _, notMark⟩ := (isInert_iff first).mp (word.inert first (by simp))
      refine ⟨word.nonBlank first (by simp), fun rest follows => ?_⟩
      rw [skipToken_atom _ (by simpa using notQuote) (by simpa using notOpen)
        (by simpa using notMark), List.dropWhile_append_of_pos, dropWhile_nonBlank rest follows]
      intro c member
      simp [word.nonBlank c member]

end ScriptCatalog
