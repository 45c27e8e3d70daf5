import Mathlib.Tactic.SplitIfs
import ScriptCatalog.Json.Reader
import ScriptCatalog.Json.Writer
import ScriptCatalog.Proofs.Act

/-! Texts in documents. Each character is read back from the characters that it is written as,
whether it is escaped or not, and so a text is read back whole. -/

namespace ScriptCatalog

namespace Json

/-! Characters. -/

/-- A control character is written as four digits, from which its code is read. -/
theorem exists_hexDigits (code : Fin 0x20) :
    ∃ a b c d, hexDigits 4 code = [a, b, c, d] ∧ hexNumber? [a, b, c, d] = some code.val := by
  have digits : (hexDigits 4 code).length = 4 ∧ hexNumber? (hexDigits 4 code) = some code.val := by
    revert code
    decide +kernel
  match written : hexDigits 4 code, digits with
  | [a, b, c, d], digits => exact ⟨a, b, c, d, rfl, digits.2⟩

theorem readUnicodeEscape_hexDigits {c : Char} (control : c.toNat < 0x20) (mark : List Char)
    (next : Char) (rest : List Char) :
    readUnicodeEscape mark (hexDigits 4 c.toNat ++ next :: rest) = .ok (c, next :: rest) := by
  obtain ⟨first, second, third, fourth, written, read⟩ := exists_hexDigits ⟨c.toNat, control⟩
  have plain : isHighSurrogate c.toNat = false := by
    simp [isHighSurrogate]
    omega
  have code : charOfCode c.toNat = c := by
    unfold charOfCode
    rw [if_neg (by simp; omega), Char.ofNat_toNat]
  dsimp only at written read
  rw [written]
  simp only [List.cons_append, List.nil_append, readUnicodeEscape, read, plain, code]
  rfl

/-- How a character is written. -/
inductive Escapes (c : Char) : List Char → Prop
  | short (mark : Char) (other : mark ≠ 'u') (read : simpleEscape? mark = some c) :
      Escapes c ['\\', mark]
  | long (control : c.toNat < 0x20) : Escapes c ('\\' :: 'u' :: hexDigits 4 c.toNat)
  | plain (notQuote : c ≠ '"') (notBackslash : c ≠ '\\') (printable : 0x20 ≤ c.toNat) :
      Escapes c [c]

theorem escapes_escapedChar (c : Char) : Escapes c (escapedChar c) := by
  unfold escapedChar
  split_ifs with special feed returns tab back form control
  · rcases (Bool.or_eq_true _ _).mp special with same | same
    · exact .short c (eq_of_beq same ▸ by decide) (eq_of_beq same ▸ rfl)
    · exact .short c (eq_of_beq same ▸ by decide) (eq_of_beq same ▸ rfl)
  · exact .short 'n' (by decide) (eq_of_beq feed ▸ rfl)
  · exact .short 'r' (by decide) (eq_of_beq returns ▸ rfl)
  · exact .short 't' (by decide) (eq_of_beq tab ▸ rfl)
  · exact .short 'b' (by decide) (eq_of_beq back ▸ rfl)
  · exact .short 'f' (by decide) (eq_of_beq form ▸ rfl)
  · exact .long control
  · simp only [Bool.or_eq_true, beq_iff_eq, not_or] at special
    exact .plain special.1 special.2 (Nat.le_of_not_lt control)

/-- What a character is written as is read as that character. -/
theorem readCharacter_of_escapes {c : Char} {written : List Char} (escapes : Escapes c written)
    (opening : List Char) (next : Char) (rest : List Char) :
    readCharacter opening (written ++ next :: rest) = .ok (some c, next :: rest) := by
  cases escapes with
  | short mark other read =>
      rw [List.cons_append, List.singleton_append, readCharacter]
      · rw [read]
      · exact other
  | long control =>
      rw [List.cons_append, List.cons_append, readCharacter,
        readUnicodeEscape_hexDigits control]
      rfl
  | plain notQuote notBackslash printable =>
      rw [List.singleton_append, readCharacter, if_neg (Nat.not_lt.mpr printable)]
      · exact notQuote
      · exact fun same => absurd same notBackslash
      · exact fun _ same => absurd same notBackslash
      · exact fun _ _ same => absurd same notBackslash

theorem Escapes.ne_nil {c : Char} {written : List Char} (escapes : Escapes c written) :
    written ≠ [] := by
  cases escapes with
  | short => exact List.cons_ne_nil _ _
  | long => exact List.cons_ne_nil _ _
  | plain => exact List.cons_ne_nil _ _

/-- No line end is written as it is. -/
theorem Escapes.return_not_mem {c : Char} {written : List Char} (escapes : Escapes c written) :
    '\r' ∉ written := by
  cases escapes with
  | short mark other read =>
      intro member
      simp only [List.mem_cons, List.not_mem_nil, or_false] at member
      obtain escape | rfl := member
      · exact absurd escape (by decide)
      · cases read
  | long control =>
      have digits : ∀ code : Fin 0x20, '\r' ∉ hexDigits 4 code := by decide +kernel
      intro member
      simp only [List.mem_cons] at member
      obtain escape | mark | digit := member
      · exact absurd escape (by decide)
      · exact absurd mark (by decide)
      · exact digits ⟨c.toNat, control⟩ digit
  | plain notQuote notBackslash printable =>
      intro member
      rw [← List.mem_singleton.mp member] at printable
      exact absurd printable (by decide)

/-- Text without a backslash has no escape in it. -/
theorem holdsHalfPair_append {part : List Char} (plain : '\\' ∉ part) (rest : List Char) :
    holdsHalfPair (part ++ rest) = holdsHalfPair rest := by
  induction part with
  | nil => rfl
  | cons c part ih =>
      rw [List.mem_cons, not_or] at plain
      rw [List.cons_append, holdsHalfPair, ih plain.2]
      · exact fun _ _ _ _ _ same => absurd same.symm plain.1
      · exact fun _ _ same => absurd same.symm plain.1

/-- No character is written as half of a surrogate pair. -/
theorem Escapes.holdsHalfPair_append {c : Char} {written : List Char} (escapes : Escapes c written)
    (rest : List Char) : holdsHalfPair (written ++ rest) = holdsHalfPair rest := by
  cases escapes with
  | short mark other read =>
      rw [List.cons_append, List.singleton_append, holdsHalfPair]
      exact fun _ _ _ _ _ same => absurd same other
  | long control =>
      obtain ⟨first, second, third, fourth, digits, read⟩ := exists_hexDigits ⟨c.toNat, control⟩
      dsimp only at digits read
      have notHigh : isHighSurrogate c.toNat = false := by
        simp [isHighSurrogate]
        omega
      have notLow : isLowSurrogate c.toNat = false := by
        simp [isLowSurrogate]
        omega
      rw [digits]
      simp only [List.cons_append, List.nil_append]
      rw [holdsHalfPair.eq_def]
      simp only [read, notHigh, notLow, Bool.false_or, Bool.false_eq_true, if_false]
  | plain notQuote notBackslash printable =>
      refine Json.holdsHalfPair_append ?_ rest
      rw [List.mem_singleton]
      exact notBackslash.symm

/-! Texts. -/

theorem holdsHalfPair_writeText_append (text : String) (rest : List Char) :
    holdsHalfPair (writeText text ++ rest) = holdsHalfPair rest := by
  have characters (written : List Char) (after : List Char) :
      holdsHalfPair (written.flatMap escapedChar ++ after) = holdsHalfPair after := by
    induction written with
    | nil => rfl
    | cons c written ih =>
        rw [List.flatMap_cons, List.append_assoc, (escapes_escapedChar c).holdsHalfPair_append, ih]
  have quotes : '\\' ∉ ['"'] := by decide
  have split : writeText text ++ rest =
      ['"'] ++ (text.toList.flatMap escapedChar ++ (['"'] ++ rest)) := by
    simp [writeText]
  rw [split, holdsHalfPair_append quotes, characters, holdsHalfPair_append quotes]

theorem length_le_length_flatMap (characters : List Char) :
    characters.length ≤ (characters.flatMap escapedChar).length := by
  induction characters with
  | nil => exact Nat.le_refl 0
  | cons c characters ih =>
      have some := List.length_pos_iff.mpr (escapes_escapedChar c).ne_nil
      rw [List.flatMap_cons, List.length_append, List.length_cons]
      omega

theorem readText_flatMap {characters : List Char} {fuel : Nat} (opening rest : List Char)
    (enough : characters.length < fuel) :
    readText opening fuel (characters.flatMap escapedChar ++ '"' :: rest) =
      .ok (characters, rest) := by
  induction characters generalizing fuel with
  | nil =>
      obtain ⟨fuel, rfl⟩ := Nat.exists_eq_succ_of_ne_zero (Nat.ne_of_gt enough)
      rfl
  | cons c characters ih =>
      obtain ⟨fuel, rfl⟩ := Nat.exists_eq_succ_of_ne_zero (Nat.ne_of_gt (Nat.zero_lt_of_lt enough))
      have others := ih (Nat.lt_of_succ_lt_succ enough)
      obtain ⟨next, after, later⟩ := List.exists_cons_of_ne_nil
        (List.append_ne_nil_of_right_ne_nil (characters.flatMap escapedChar)
          (List.cons_ne_nil '"' rest))
      have first := readCharacter_of_escapes (escapes_escapedChar c) opening next after
      rw [later] at others
      rw [List.flatMap_cons, List.append_assoc, later, readText]
      refine (Except.bind_eq_ok _ _ _).mpr ⟨_, first, ?_⟩
      exact (Except.bind_eq_ok _ _ _).mpr ⟨_, others, rfl⟩

/-- A text that is written is read back. -/
theorem readQuotedText_writeText {text : String} {fuel : Nat} (rest : List Char)
    (enough : (writeText text).length ≤ fuel) :
    readQuotedText fuel (writeText text ++ rest) = .ok (text.toList, rest) := by
  have length := length_le_length_flatMap text.toList
  have fuelEnough : text.toList.length < fuel := by
    simp only [writeText, List.length_append, List.length_cons] at enough
    omega
  have read := readText_flatMap (writeText text ++ rest) rest fuelEnough
  have body : (writeText text ++ rest).tail = text.toList.flatMap escapedChar ++ '"' :: rest := by
    simp [writeText]
  rw [readQuotedText, body, read]

end Json

end ScriptCatalog
