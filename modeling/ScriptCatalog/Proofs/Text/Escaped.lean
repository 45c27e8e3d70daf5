import ScriptCatalog.Argument.Token
import ScriptCatalog.Proofs.Command.Quoting

/-! Escaped texts among all texts. A scan from left to right tells whether a text is the escaped
form of another one, and that one is what is read from it between double quotes. A quoted text is
read back as it was from any text that starts with it, so that none is the start of another. -/

namespace ScriptCatalog

/-- Backspace, form feed, line feed, carriage return, tab, backslash and double quote. -/
def isMark (c : Char) : Bool :=
  c == '\x08' || c == '\x0c' || c == '\n' || c == '\r' || c == '\t' || c == '\\' || c == '"'

/-- Scans a text: each backslash stands before one of the marks, and those stand nowhere else. -/
def scansEscaped : List Char → Bool
  | [] => true
  | ['\\'] => false
  | '\\' :: c :: rest => isMark c && scansEscaped rest
  | c :: rest => !isMark c && scansEscaped rest

theorem needsEscape_eq_isMark (c : Char) : needsEscape c = isMark c := by
  rw [Bool.eq_iff_iff]
  simp [needsEscape, escapedCharacters, isMark, or_assoc]

theorem scansEscaped_pair (c : Char) (rest : List Char) :
    scansEscaped ('\\' :: c :: rest) = (isMark c && scansEscaped rest) := by
  simp [scansEscaped]

theorem scansEscaped_plain {c : Char} (plain : isMark c = false) (rest : List Char) :
    scansEscaped (c :: rest) = scansEscaped rest := by
  have notBackslash : c ≠ '\\' := by
    rintro rfl
    exact absurd plain (by decide)
  rw [scansEscaped]
  · simp [plain]
  · intro backslash
    exact absurd backslash notBackslash
  · intro _ _ backslash
    exact absurd backslash notBackslash

theorem scansEscaped_escapeChars (text : List Char) : scansEscaped (escapeChars text) = true := by
  induction text with
  | nil => rfl
  | cons c text ih =>
      rw [escapeChars, needsEscape_eq_isMark]
      by_cases mark : isMark c = true
      · simp [mark, scansEscaped_pair, ih]
      · simp only [Bool.not_eq_true] at mark
        simp [mark, scansEscaped_plain mark, ih]

theorem exists_escapeChars (written : List Char) (scanned : scansEscaped written = true) :
    ∃ text, escapeChars text = written := by
  fun_induction scansEscaped written with
  | case1 => exact ⟨[], rfl⟩
  | case2 => simp at scanned
  | case3 c rest ih =>
      simp only [Bool.and_eq_true] at scanned
      obtain ⟨mark, scanned⟩ := scanned
      obtain ⟨text, escaped⟩ := ih scanned
      refine ⟨c :: text, ?_⟩
      simp [escapeChars, needsEscape_eq_isMark, mark, escaped]
  | case4 c rest _ _ ih =>
      simp only [Bool.and_eq_true, Bool.not_eq_true'] at scanned
      obtain ⟨plain, scanned⟩ := scanned
      obtain ⟨text, escaped⟩ := ih scanned
      refine ⟨c :: text, ?_⟩
      simp [escapeChars, needsEscape_eq_isMark, plain, escaped]

/-- The texts that escaping gives are those that the scan lets pass. -/
theorem exists_escapeChars_iff (written : List Char) :
    (∃ text, escapeChars text = written) ↔ scansEscaped written = true := by
  constructor
  · rintro ⟨text, rfl⟩
    exact scansEscaped_escapeChars text
  · exact exists_escapeChars written

theorem exists_escapedText_iff (written : String) :
    (∃ text, escapedText (.text text) = .ok written) ↔ scansEscaped written.toList = true := by
  rw [← exists_escapeChars_iff]
  constructor
  · rintro ⟨text, escaped⟩
    cases escaped
    exact ⟨text.toList, String.toList_ofList.symm⟩
  · rintro ⟨text, escaped⟩
    refine ⟨String.ofList text, ?_⟩
    simp [escapedText, escape, escaped]

/-! Quoted texts. -/

/-- A quoted text that starts with another quoted text is that one. -/
theorem eq_of_quoteChars_eq_append {text other rest : List Char}
    (longer : quoteChars other = quoteChars text ++ rest) : other = text ∧ rest = [] := by
  have whole := readQuoted_quoteChars other []
  rw [List.append_nil, longer, readQuoted_quoteChars] at whole
  simp only [Option.some.injEq, Prod.mk.injEq] at whole
  exact ⟨whole.1.symm, whole.2⟩

theorem textToken_text (text : String) :
    textToken (.text text) = .ok (String.ofList (quoteChars text.toList)) := rfl

theorem ofList_quoteChars {text written : String} (escaped : escape text = written) :
    String.ofList (quoteChars text.toList) = "\"" ++ written ++ "\"" := by
  rw [← escaped]
  apply String.toList_injective
  simp [quoteChars, escape]

theorem readQuoted_quoted (text rest : String) :
    readQuoted (String.ofList (quoteChars text.toList) ++ rest).toList =
      some (text.toList, rest.toList) := by
  rw [String.toList_append, String.toList_ofList]
  exact readQuoted_quoteChars text.toList rest.toList

/-- Quoting is a prefix code: what a quoted text starts is read as that text and what follows it, so
that no quoted text starts another one's. Escaping gives exactly the texts that the scan lets pass,
and those are the texts that it gives again from what is read of them between double quotes. -/
theorem quoted_texts_read_back (text other rest written : String) :
    (∃ quoted, textToken (.text text) = .ok quoted ∧
      readQuoted (quoted ++ rest).toList = some (text.toList, rest.toList) ∧
      (textToken (.text other) = .ok (quoted ++ rest) ↔ other = text ∧ rest = "")) ∧
    ((∃ source, escapedText (.text source) = .ok written) ↔
      scansEscaped written.toList = true) ∧
    (scansEscaped written.toList = true ↔
      ∃ source : String,
        readQuoted ("\"" ++ written ++ "\"" ++ rest).toList = some (source.toList, rest.toList) ∧
        escapedText (.text source) = .ok written) := by
  refine ⟨⟨_, textToken_text text, readQuoted_quoted text rest, ?_⟩,
    exists_escapedText_iff written, ?_⟩
  · constructor
    · intro longer
      rw [textToken_text, Except.ok.injEq, ← String.toList_inj, String.toList_append,
        String.toList_ofList, String.toList_ofList] at longer
      obtain ⟨same, nothing⟩ := eq_of_quoteChars_eq_append longer
      exact ⟨String.toList_injective same, String.toList_injective nothing⟩
    · rintro ⟨rfl, rfl⟩
      rw [textToken_text, String.append_empty]
  · rw [← exists_escapedText_iff]
    constructor
    · rintro ⟨source, escaped⟩
      refine ⟨source, ?_, escaped⟩
      rw [← ofList_quoteChars (Except.ok.inj escaped)]
      exact readQuoted_quoted source rest
    · rintro ⟨source, _, escaped⟩
      exact ⟨source, escaped⟩

/-- A mark after two backslashes is not escaped, and other characters never are. -/
example : scansEscaped "\\\\\"".toList = false ∧ scansEscaped "\\a".toList = false := by decide

end ScriptCatalog
