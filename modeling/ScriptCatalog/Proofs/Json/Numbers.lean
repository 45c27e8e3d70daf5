import ScriptCatalog.Json.Reader
import ScriptCatalog.Json.Writer
import ScriptCatalog.Proofs.Number.Numeral
import ScriptCatalog.Proofs.Number.Placed

/-! Numbers in documents. A number that is written is read back with its type: a whole number from
its digits, and another from its shortest text, which has a point or an exponent. -/

namespace ScriptCatalog

namespace Json

/-! Where the parts of a number end. -/

/-- What follows a value in a document: a comma or the end of the line. -/
inductive EndsValue : List Char → Prop
  | comma (after : List Char) : EndsValue (',' :: after)
  | line (after : List Char) : EndsValue ('\n' :: after)

theorem wholeDigits_append {whole rest : List Char} (proper : whole = ['0'] ∨ Significant whole)
    (stops : ∀ c ∈ rest.head?, c.isDigit = false) : wholeDigits (whole ++ rest) = whole := by
  rcases proper with rfl | significant
  · rfl
  · unfold wholeDigits
    split
    next after zero =>
      obtain ⟨none, _⟩ | ⟨before, first, _⟩ := List.append_eq_cons_iff.mp zero
      · exact absurd none significant.nonempty
      · exact absurd first (significant.first before)
    next => exact takeWhile_isDigit_append significant.each stops

theorem pointDigits_append {part rest : List Char} (each : ∀ c ∈ part, c.isDigit = true)
    (stops : ∀ c ∈ rest.head?, c.isDigit = false) (noPoint : rest.head? ≠ some '.') :
    pointDigits ((if part = [] then [] else '.' :: part) ++ rest) = part := by
  by_cases none : part = []
  · rw [if_pos none, List.nil_append, none]
    unfold pointDigits
    split
    next after => exact absurd rfl noPoint
    next => rfl
  · rw [if_neg none]
    exact takeWhile_isDigit_append each stops

theorem readNat?_eq_some {digits : List Char} (nonempty : digits ≠ [])
    (each : ∀ c ∈ digits, c.isDigit = true) :
    readNat? digits = some (Nat.ofDigitChars 10 digits 0) := by
  unfold readNat?
  rw [if_pos]
  simp [nonempty, List.all_eq_true.mpr each]

/-- An exponent is written as a sign and the digits of its size, from which it is read. -/
theorem exists_exponentChars (exponent : Int) :
    ∃ sign first digits, Binary64.exponentChars exponent = 'e' :: sign :: first :: digits ∧
      (sign == '+' || sign == '-') = true ∧ (∀ c ∈ first :: digits, c.isDigit = true) ∧
      readExponent? (Binary64.exponentChars exponent) = some exponent := by
  have each : ∀ c ∈ padLeft 2 (Nat.toDigits 10 exponent.natAbs), c.isDigit = true :=
    fun _ => isDigit_of_mem_padLeft
  have size : Nat.ofDigitChars 10 (padLeft 2 (Nat.toDigits 10 exponent.natAbs)) 0 =
      exponent.natAbs := by
    rw [padLeft, ofDigitChars_zeros_append, Nat.ofDigitChars_ten_toDigits]
  have nonempty : padLeft 2 (Nat.toDigits 10 exponent.natAbs) ≠ [] :=
    List.append_ne_nil_of_right_ne_nil _ Nat.toDigits_ne_nil
  have read := readNat?_eq_some nonempty each
  rw [size] at read
  obtain ⟨first, digits, text⟩ := List.exists_cons_of_ne_nil nonempty
  refine ⟨if exponent < 0 then '-' else '+', first, digits, ?_, ?_, text ▸ each, ?_⟩
  · rw [Binary64.exponentChars, text]
  · split <;> rfl
  · rw [Binary64.exponentChars]
    split
    next below =>
      have negated : -(exponent.natAbs : Int) = exponent := by omega
      simp only [readExponent?, splitSign, read]
      exact congrArg some negated
    next above =>
      have kept : (exponent.natAbs : Int) = exponent := by omega
      simp only [readExponent?, splitSign, read]
      exact congrArg some kept

theorem exponentText_append (exponent : Option Int) {rest : List Char} (ends : EndsValue rest) :
    exponentText (exponent.elim [] Binary64.exponentChars ++ rest) =
      exponent.elim [] Binary64.exponentChars := by
  cases exponent with
  | none => cases ends <;> rfl
  | some exponent =>
      obtain ⟨sign, first, digits, text, signed, each, _⟩ := exists_exponentChars exponent
      have plain : (first == '+' || first == '-') = false := by
        have digit := each first List.mem_cons_self
        have plus : first ≠ '+' := ne_of_isDigit digit rfl
        have minus : first ≠ '-' := ne_of_isDigit digit rfl
        simp [plus, minus]
      have stops : ∀ c ∈ rest.head?, c.isDigit = false := by
        cases ends <;> simp
      have signs : (sign :: first :: (digits ++ rest)).takeWhile (fun c => c == '+' || c == '-') =
          [sign] := by
        rw [List.takeWhile_cons_of_pos (p := fun c => c == '+' || c == '-') signed,
          List.takeWhile_cons_of_neg (by simp [plain])]
      have size : (first :: (digits ++ rest)).takeWhile Char.isDigit = first :: digits :=
        takeWhile_isDigit_append each stops
      rw [Option.elim_some, text]
      simp only [List.cons_append, exponentText, signs, List.length_singleton, List.drop_one,
        List.tail_cons, size]
      rfl

theorem head?_exponent_plain (exponent : Option Int) {rest : List Char} (ends : EndsValue rest) :
    ∀ c ∈ (exponent.elim [] Binary64.exponentChars ++ rest).head?, c.isDigit = false := by
  cases exponent with
  | none =>
      cases ends with
      | comma after => simp
      | line after => simp
  | some exponent => simp [Binary64.exponentChars]

theorem head?_exponent_ne_point (exponent : Option Int) {rest : List Char} (ends : EndsValue rest) :
    (exponent.elim [] Binary64.exponentChars ++ rest).head? ≠ some '.' := by
  cases exponent with
  | none =>
      cases ends with
      | comma after => simp
      | line after => simp
  | some exponent => simp [Binary64.exponentChars]

theorem head?_point_plain (part : List Char) {rest : List Char}
    (stops : ∀ c ∈ rest.head?, c.isDigit = false) :
    ∀ c ∈ ((if part = [] then [] else '.' :: part) ++ rest).head?, c.isDigit = false := by
  split
  · exact stops
  · rintro _ ⟨⟩
    rfl

theorem head?_signChars (negative : Bool) {first : Char} {rest : List Char}
    (digit : first.isDigit = true) :
    ((Binary64.signChars negative ++ first :: rest).head? == some '-') = negative := by
  cases negative with
  | true => rfl
  | false =>
      have unsigned : first ≠ '-' := ne_of_isDigit digit rfl
      exact beq_false_of_ne fun minus => unsigned (Option.some.inj minus)

theorem readExponent?_elim (exponent : Option Int) :
    (readExponent? (exponent.elim [] Binary64.exponentChars)).getD 0 = exponent.getD 0 := by
  cases exponent with
  | none => rfl
  | some exponent =>
      obtain ⟨_, _, _, _, _, _, read⟩ := exists_exponentChars exponent
      rw [Option.elim_some, read]

/-! Numbers. -/

/-- A number is read part by part: its sign, its digits before and after the point, and its
exponent, if its text is made of them. -/
theorem readNumber?_of_parts {input whole part mark rest : List Char} {negative : Bool}
    (sign : (input.head? == some '-') = negative)
    (body : (if negative then input.tail else input) =
      whole ++ ((if part = [] then [] else '.' :: part) ++ (mark ++ rest)))
    (wholeEq : wholeDigits (whole ++ ((if part = [] then [] else '.' :: part) ++ (mark ++ rest))) =
      whole)
    (partEq : pointDigits ((if part = [] then [] else '.' :: part) ++ (mark ++ rest)) = part)
    (markEq : exponentText (mark ++ rest) = mark) (nonempty : whole ≠ []) :
    readNumber? input = some (if part.isEmpty && mark.isEmpty then
        int (if negative then -(Nat.ofDigitChars 10 whole 0 : Int) else Nat.ofDigitChars 10 whole 0)
      else real (.ofDigits negative whole part ((readExponent? mark).getD 0)), rest) := by
  have point : ((if part = [] then [] else '.' :: part) ++ (mark ++ rest)).drop
      (if part.isEmpty then 0 else part.length + 1) = mark ++ rest := by
    cases part with
    | nil => rfl
    | cons digit digits =>
        rw [if_neg (List.cons_ne_nil _ _), List.isEmpty_cons]
        exact List.drop_left' rfl
  unfold readNumber?
  simp only [sign, body, wholeEq, List.drop_left, partEq, point, markEq]
  rw [if_neg (by simp [nonempty])]
  split
  · rfl
  · rfl

variable {numeral : Numeral} {rest : List Char}

/-- What a numeral is read as: a whole number if it has neither a point nor an exponent. -/
def numberOf (negative : Bool) (numeral : Numeral) : Json :=
  if numeral.part = [] ∧ numeral.exponent = none then
    int (if negative then -(Nat.ofDigitChars 10 numeral.whole 0 : Int)
      else Nat.ofDigitChars 10 numeral.whole 0)
  else real (numeral.value negative)

theorem readNumber?_text (proper : numeral.IsProper) (negative : Bool) (ends : EndsValue rest) :
    readNumber? (Binary64.signChars negative ++ (numeral.text ++ rest)) =
      some (numberOf negative numeral, rest) := by
  obtain ⟨first, digits, nonempty, digit⟩ := proper.exists_first
  have stops := head?_exponent_plain numeral.exponent ends
  have noPoint := head?_exponent_ne_point numeral.exponent ends
  have wholeStops := head?_point_plain numeral.part stops
  have split : numeral.text ++ rest = numeral.whole ++
      ((if numeral.part = [] then [] else '.' :: numeral.part) ++
        (numeral.exponent.elim [] Binary64.exponentChars ++ rest)) := by
    rw [Numeral.text, List.append_assoc, List.append_assoc]
  have sign : ((Binary64.signChars negative ++ (numeral.text ++ rest)).head? == some '-') =
      negative := by
    rw [split, nonempty]
    exact head?_signChars negative digit
  rw [readNumber?_of_parts sign ?_ (wholeDigits_append proper.whole wholeStops)
    (pointDigits_append proper.part stops noPoint) (exponentText_append numeral.exponent ends)
    (nonempty ▸ List.cons_ne_nil _ _), readExponent?_elim, numberOf]
  · obtain ⟨whole, part, exponent⟩ := numeral
    cases part with
    | nil =>
        cases exponent with
        | none => rfl
        | some exponent => rfl
    | cons digit digits => rfl
  · rw [← split]
    cases negative with
    | true => rfl
    | false => rfl

/-! Written numbers. -/

theorem readNumber?_writeInt (value : Int) (ends : EndsValue rest) :
    readNumber? (writeInt value ++ rest) = some (int value, rest) := by
  have proper : (Numeral.mk (Nat.toDigits 10 value.natAbs) [] none).IsProper := by
    refine ⟨?_, List.forall_mem_nil _⟩
    by_cases zero : value.natAbs = 0
    · rw [zero]
      exact .inl rfl
    · exact .inr (toDigits_significant (Nat.pos_of_ne_zero zero))
  have text : (Numeral.mk (Nat.toDigits 10 value.natAbs) [] none).text =
      Nat.toDigits 10 value.natAbs := by
    simp [Numeral.text]
  have size :
      (if decide (value < 0) = true then -(value.natAbs : Int) else value.natAbs) = value := by
    split
    next below =>
      have negative := of_decide_eq_true below
      omega
    next above =>
      have positive := of_decide_eq_false (Bool.not_eq_true _ ▸ above)
      omega
  have read := readNumber?_text proper (value < 0) ends
  rw [text, numberOf, if_pos ⟨rfl, rfl⟩, Nat.ofDigitChars_ten_toDigits, size] at read
  rw [writeInt, List.append_assoc]
  exact read

/-- A finite number is read back as itself, its sign included. -/
theorem readNumber?_writeReal (negative : Bool) (exponent : Fin 2047)
    (fraction : Fin (Nat.pow 2 52)) (ends : EndsValue rest) :
    readNumber? (writeReal (.finite negative exponent fraction) ++ rest) =
      some (real (.finite negative exponent fraction), rest) := by
  obtain ⟨numeral, proper, isReal, text, value⟩ :=
    Binary64.exists_shortestChars exponent fraction
  have read := readNumber?_text proper negative ends
  have notWhole : ¬(numeral.part = [] ∧ numeral.exponent = none) := by
    rintro ⟨noPart, noExponent⟩
    exact isReal.elim (· noPart) (· noExponent)
  rw [text, numberOf, if_neg notWhole, value, ← List.append_assoc] at read
  exact read

end Json

end ScriptCatalog
