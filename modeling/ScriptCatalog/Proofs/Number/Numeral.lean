import Mathlib.Data.List.TakeWhile
import ScriptCatalog.Number.Literal
import ScriptCatalog.Proofs.Number.Nearest

/-! The shortest text of a number. It has digits on both sides of a point, or an exponent, and what
it says with them is the number itself. -/

namespace ScriptCatalog

/-! Digits. -/

theorem ne_of_isDigit {c other : Char} (digit : c.isDigit = true) (plain : other.isDigit = false) :
    c ≠ other := by
  rintro rfl
  exact absurd (digit.symm.trans plain) (by decide)

theorem takeWhile_isDigit_append {digits rest : List Char} (each : ∀ c ∈ digits, c.isDigit = true)
    (stops : ∀ c ∈ rest.head?, c.isDigit = false) :
    (digits ++ rest).takeWhile Char.isDigit = digits := by
  rw [List.takeWhile_append_of_pos each]
  cases rest with
  | nil => rw [List.takeWhile_nil, List.append_nil]
  | cons c after =>
      rw [List.takeWhile_cons_of_neg (Bool.not_eq_true _ ▸ stops c rfl), List.append_nil]

theorem dropWhile_isDigit_append {digits rest : List Char} (each : ∀ c ∈ digits, c.isDigit = true)
    (stops : ∀ c ∈ rest.head?, c.isDigit = false) :
    (digits ++ rest).dropWhile Char.isDigit = rest := by
  rw [List.dropWhile_append_of_pos each]
  cases rest with
  | nil => rfl
  | cons c after => exact List.dropWhile_cons_of_neg (Bool.not_eq_true _ ▸ stops c rfl)

/-- Digits that do not start with a zero. -/
structure Significant (digits : List Char) : Prop where
  each : ∀ c ∈ digits, c.isDigit = true
  nonempty : digits ≠ []
  first : ∀ rest, digits ≠ '0' :: rest

namespace Significant

variable {digits rest : List Char}

theorem append (significant : Significant digits) (each : ∀ c ∈ rest, c.isDigit = true) :
    Significant (digits ++ rest) := by
  refine ⟨fun c member => ?_, List.append_ne_nil_of_left_ne_nil significant.nonempty rest, ?_⟩
  · rcases List.mem_append.mp member with digit | digit
    · exact significant.each c digit
    · exact each c digit
  · intro later zero
    obtain ⟨none, _⟩ | ⟨before, first, _⟩ := List.append_eq_cons_iff.mp zero
    · exact significant.nonempty none
    · exact significant.first before first

theorem of_append (significant : Significant (digits ++ rest)) (nonempty : digits ≠ []) :
    Significant digits := by
  refine ⟨fun c member => significant.each c (List.mem_append_left rest member), nonempty, ?_⟩
  intro later first
  refine significant.first (later ++ rest) ?_
  rw [first, List.cons_append]

end Significant

/-- The digits of a number other than zero do not start with a zero. -/
theorem toDigits_significant {value : Nat} (positive : 0 < value) :
    Significant (Nat.toDigits 10 value) := by
  refine ⟨fun c => Nat.isDigit_of_mem_toDigits (by decide) (by decide), Nat.toDigits_ne_nil, ?_⟩
  induction value using Nat.strongRecOn with
  | ind value ih =>
      intro rest digits
      by_cases small : value < 10
      · rw [Nat.toDigits_of_lt_base small, List.cons_eq_cons, Nat.digitChar_eq_zero] at digits
        exact positive.ne' digits.1
      · rw [Nat.toDigits_of_base_le (by decide) (by omega)] at digits
        obtain ⟨none, _⟩ | ⟨before, tens, _⟩ := List.append_eq_cons_iff.mp digits
        · exact Nat.toDigits_ne_nil none
        · exact ih (value / 10) (by omega) (by omega) before tens

theorem ofDigitChars_append_zeros (digits : List Char) (count : Nat) :
    Nat.ofDigitChars 10 (digits ++ List.replicate count '0') 0 =
      Nat.ofDigitChars 10 digits 0 * 10 ^ count := by
  rw [Nat.ofDigitChars_append, Nat.ofDigitChars_replicate_zero, Nat.mul_comm]

theorem ofDigitChars_zeros_append (digits : List Char) (count : Nat) :
    Nat.ofDigitChars 10 (List.replicate count '0' ++ digits) 0 = Nat.ofDigitChars 10 digits 0 := by
  rw [Nat.ofDigitChars_append, Nat.ofDigitChars_replicate_zero, Nat.mul_zero]

namespace Binary64

theorem exists_dropTrailingZeros (digits : List Char) :
    ∃ count, digits = dropTrailingZeros digits ++ List.replicate count '0' := by
  refine ⟨(digits.reverse.takeWhile (· == '0')).length, ?_⟩
  have zeros : digits.reverse.takeWhile (· == '0') =
      List.replicate (digits.reverse.takeWhile (· == '0')).length '0' := by
    refine List.eq_replicate_of_mem fun c member => ?_
    have zero : (c == '0') = true := List.mem_takeWhile_imp (p := (· == '0')) member
    exact eq_of_beq zero
  rw [← List.reverse_replicate, ← zeros, dropTrailingZeros, ← List.reverse_append,
    List.takeWhile_append_dropWhile, List.reverse_reverse]

/-- Zeros at the end of digits can be dropped, with the point where it was. -/
theorem ofDecimal_dropTrailingZeros {digits : List Char} (significant : Significant digits)
    (positive : 0 < Nat.ofDigitChars 10 digits 0) (exponent : Int) :
    Significant (dropTrailingZeros digits) ∧
      0 < Nat.ofDigitChars 10 (dropTrailingZeros digits) 0 ∧
      ∀ negative, ofDecimal negative (Nat.ofDigitChars 10 (dropTrailingZeros digits) 0)
          (digits.length + exponent - (dropTrailingZeros digits).length) =
        ofDecimal negative (Nat.ofDigitChars 10 digits 0) exponent := by
  obtain ⟨count, split⟩ := exists_dropTrailingZeros digits
  generalize dropTrailingZeros digits = kept at split ⊢
  subst split
  rw [ofDigitChars_append_zeros] at positive ⊢
  have some := Nat.pos_of_mul_pos_right positive
  refine ⟨significant.of_append ?_, some, fun negative => ?_⟩
  · rintro rfl
    exact absurd some (Nat.lt_irrefl 0)
  · rw [← ofDecimal_shift negative some count]
    congr 1
    simp
    omega

end Binary64

/-! Numbers as they are written. -/

/-- The digits before the point, those after it, and the exponent if there is one. -/
structure Numeral where
  whole : List Char
  part : List Char
  exponent : Option Int

namespace Numeral

variable (numeral : Numeral)

def text : List Char :=
  numeral.whole ++ (if numeral.part = [] then [] else '.' :: numeral.part) ++
    numeral.exponent.elim [] Binary64.exponentChars

def value (negative : Bool) : Binary64 :=
  .ofDigits negative numeral.whole numeral.part (numeral.exponent.getD 0)

/-- A numeral of digits alone: no zero stands before others in its whole part. -/
structure IsProper : Prop where
  whole : numeral.whole = ['0'] ∨ Significant numeral.whole
  part : ∀ c ∈ numeral.part, c.isDigit = true

variable {numeral} in
theorem IsProper.exists_first (proper : numeral.IsProper) :
    ∃ first digits, numeral.whole = first :: digits ∧ first.isDigit = true := by
  rcases proper.whole with zero | significant
  · exact ⟨'0', [], zero, rfl⟩
  · obtain ⟨first, digits, whole⟩ := List.exists_cons_of_ne_nil significant.nonempty
    exact ⟨first, digits, whole, significant.each first (whole ▸ List.mem_cons_self)⟩

variable {numeral} in
theorem IsProper.isDigit_whole (proper : numeral.IsProper) :
    ∀ c ∈ numeral.whole, c.isDigit = true := by
  intro c member
  rcases proper.whole with zero | significant
  · rw [zero, List.mem_singleton] at member
    rw [member]
    rfl
  · exact significant.each c member

variable {numeral} in
theorem text_of_plain (plain : numeral.exponent = none) :
    numeral.text = numeral.whole ++ if numeral.part = [] then [] else '.' :: numeral.part := by
  simp [text, plain]

/-- A numeral that is not taken for a whole number, since it has a point or an exponent. -/
def IsReal : Prop := numeral.part ≠ [] ∨ numeral.exponent ≠ none

/-- A numeral that is written as a text and stands for a decimal. -/
structure Spells (text : List Char) (digits : Nat) (exponent : Int) : Prop where
  proper : numeral.IsProper
  real : numeral.IsReal
  text : numeral.text = text
  value : ∀ negative, numeral.value negative = .ofDecimal negative digits exponent

/-! The layouts of digits whose point comes before them, after them, between them, and right after
the first one with an exponent. -/

variable {digits : List Char} {point : Int}

theorem spells_below (significant : Significant digits) (below : point ≤ 0) :
    Spells ⟨['0'], List.replicate point.natAbs '0' ++ digits, none⟩
      ('0' :: '.' :: List.replicate point.natAbs '0' ++ digits) (Nat.ofDigitChars 10 digits 0)
      (point - digits.length) := by
  have some := significant.nonempty
  refine ⟨⟨.inl rfl, ?_⟩, ?_, ?_, fun negative => ?_⟩
  · intro c member
    rcases List.mem_append.mp member with zero | digit
    · rw [List.eq_of_mem_replicate zero]
      rfl
    · exact significant.each c digit
  · exact .inl (by simp [some])
  · simp [text, some]
  · rw [value, Binary64.ofDigits, List.singleton_append, ← List.cons_append,
      ← List.replicate_succ, ofDigitChars_zeros_append, List.length_append, List.length_replicate]
    congr 1
    rw [Option.getD_none]
    omega

theorem spells_above (significant : Significant digits)
    (positive : 0 < Nat.ofDigitChars 10 digits 0) (above : digits.length ≤ point) :
    Spells ⟨digits ++ List.replicate (point.natAbs - digits.length) '0', ['0'], none⟩
      (digits ++ List.replicate (point.natAbs - digits.length) '0' ++ ['.', '0'])
      (Nat.ofDigitChars 10 digits 0) (point - digits.length) := by
  refine ⟨⟨.inr (significant.append fun c zero => ?_), ?_⟩, ?_, ?_, fun negative => ?_⟩
  · rw [List.eq_of_mem_replicate zero]
    rfl
  · simp
  · exact .inl (List.cons_ne_nil _ _)
  · simp [text]
  · rw [value, Binary64.ofDigits, List.append_assoc, ← List.replicate_succ',
      ofDigitChars_append_zeros,
      ← Binary64.ofDecimal_shift negative positive (point.natAbs - digits.length + 1)]
    congr 1
    rw [Option.getD_none, List.length_singleton]
    omega

theorem spells_inside (significant : Significant digits) (inside : point < digits.length)
    (above : 0 < point) :
    Spells ⟨digits.take point.natAbs, digits.drop point.natAbs, none⟩
      (digits.take point.natAbs ++ '.' :: digits.drop point.natAbs)
      (Nat.ofDigitChars 10 digits 0) (point - digits.length) := by
  have rest : digits.drop point.natAbs ≠ [] := by
    rw [ne_eq, List.drop_eq_nil_iff]
    omega
  have whole : digits.take point.natAbs ≠ [] := by
    rw [ne_eq, List.take_eq_nil_iff]
    exact not_or_intro (by omega) significant.nonempty
  have halves := List.take_append_drop point.natAbs digits
  refine ⟨⟨.inr (Significant.of_append (halves.symm ▸ significant) whole), ?_⟩, ?_, ?_, ?_⟩
  · exact fun c member => significant.each c (List.mem_of_mem_drop member)
  · exact .inl rest
  · simp [text, rest]
  · intro negative
    rw [value, Binary64.ofDigits, halves, List.length_drop]
    congr 1
    rw [Option.getD_none]
    omega

theorem spells_scientific {first : Char} {rest : List Char}
    (significant : Significant (first :: rest)) :
    Spells ⟨[first], rest, some (point - 1)⟩
      (first :: (if rest = [] then [] else '.' :: rest) ++ Binary64.exponentChars (point - 1))
      (Nat.ofDigitChars 10 (first :: rest) 0) (point - (first :: rest).length) := by
  have lone : Significant [first] := Significant.of_append significant (List.cons_ne_nil _ _)
  refine ⟨⟨.inr lone, ?_⟩, .inr (Option.some_ne_none _), ?_, fun negative => ?_⟩
  · exact fun c member => significant.each c (List.mem_cons_of_mem first member)
  · simp [text]
  · rw [value, Binary64.ofDigits, List.singleton_append]
    congr 1
    simp only [Option.getD_some, List.length_cons]
    omega

end Numeral

namespace Binary64

variable {digits : List Char}

theorem exists_layout (significant : Significant digits)
    (positive : 0 < Nat.ofDigitChars 10 digits 0) (point : Int) :
    ∃ numeral : Numeral, numeral.Spells (layout digits point) (Nat.ofDigitChars 10 digits 0)
      (point - digits.length) := by
  unfold layout
  split
  next positional =>
    split
    next below => exact ⟨_, Numeral.spells_below significant below⟩
    next above =>
      split
      next short => exact ⟨_, Numeral.spells_above significant positive (by omega)⟩
      next long => exact ⟨_, Numeral.spells_inside significant (by omega) (by omega)⟩
  next scientific =>
    match digits, significant with
    | [], significant => exact absurd rfl significant.nonempty
    | [only], significant => exact ⟨_, Numeral.spells_scientific significant⟩
    | first :: second :: rest, significant => exact ⟨_, Numeral.spells_scientific significant⟩

/-- The shortest text of a finite number is a numeral of that number. -/
theorem exists_shortestChars (exponent : Fin 2047) (fraction : Fin (Nat.pow 2 52)) :
    ∃ numeral : Numeral, numeral.IsProper ∧ numeral.IsReal ∧
      numeral.text = shortestChars (units exponent fraction) ∧
      ∀ negative, numeral.value negative = finite negative exponent fraction := by
  unfold shortestChars
  split
  next zero =>
    refine ⟨⟨['0'], ['0'], none⟩, ⟨.inl rfl, by simp⟩, .inl (List.cons_ne_nil _ _), rfl, ?_⟩
    obtain ⟨rfl, rfl⟩ : exponent = 0 ∧ fraction = 0 := units_inj zero
    exact fun negative => rfl
  next nonzero =>
    have positive := shortest_digits_pos nonzero
    obtain ⟨significant, some, same⟩ := ofDecimal_dropTrailingZeros
      (toDigits_significant positive) (Nat.ofDigitChars_ten_toDigits.symm ▸ positive)
      (shortest (units exponent fraction)).exponent
    obtain ⟨numeral, spells⟩ := exists_layout significant some _
    refine ⟨numeral, spells.proper, spells.real, spells.text, fun negative => ?_⟩
    rw [spells.value, same, Nat.ofDigitChars_ten_toDigits, ofDecimal_shortest negative nonzero]

end Binary64

end ScriptCatalog
