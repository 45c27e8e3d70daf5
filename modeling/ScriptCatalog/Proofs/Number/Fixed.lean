import Mathlib.Tactic.NormNum
import Mathlib.Tactic.Positivity
import ScriptCatalog.Argument.Token
import ScriptCatalog.Proofs.Number.Placed
import ScriptCatalog.Proofs.Number.Rounded

/-! Decimals with a fixed count of places, and the numbers that they stand for. A finite number is
written as the decimal nearest to what its sign, exponent and fraction stand for. -/

namespace ScriptCatalog

/-! Decimals as texts. -/

/-- What digits with a point among them stand for: what they are without the point, divided by ten
for each of them behind it. -/
def unsignedDecimal (digits : List Char) : ℚ :=
  let whole := digits.takeWhile Char.isDigit
  let part := (digits.dropWhile Char.isDigit).tail
  Nat.ofDigitChars 10 (whole ++ part) 0 / 10 ^ part.length

/-- What a decimal stands for, which is below zero after a minus sign. -/
def decimalOf : List Char → ℚ
  | '-' :: digits => -unsignedDecimal digits
  | digits => unsignedDecimal digits

/-- A minus sign or none, digits that do not start with a zero unless they are that alone, and a
point and so many digits behind it, or nothing if there are none. -/
def IsFixed (negative : Bool) (places : Nat) (text : List Char) : Prop :=
  ∃ numeral : Numeral, numeral.IsProper ∧ numeral.exponent = none ∧ numeral.part.length = places ∧
    text = (if negative then ['-'] else []) ++ numeral.text

namespace Numeral

variable {numeral : Numeral}

theorem unsignedDecimal_text (proper : numeral.IsProper) (plain : numeral.exponent = none) :
    unsignedDecimal numeral.text =
      Nat.ofDigitChars 10 (numeral.whole ++ numeral.part) 0 / 10 ^ numeral.part.length := by
  have stops : ∀ c ∈ (if numeral.part = [] then [] else '.' :: numeral.part).head?,
      c.isDigit = false := by
    split
    · simp
    · simp
  have behind : (if numeral.part = [] then [] else '.' :: numeral.part).tail = numeral.part := by
    split
    next none => rw [none, List.tail_nil]
    next some => rfl
  rw [unsignedDecimal, text_of_plain plain, takeWhile_isDigit_append proper.isDigit_whole stops,
    dropWhile_isDigit_append proper.isDigit_whole stops, behind]

theorem decimalOf_text (proper : numeral.IsProper) (negative : Bool) :
    decimalOf ((if negative then ['-'] else []) ++ numeral.text) =
      if negative then -unsignedDecimal numeral.text else unsignedDecimal numeral.text := by
  cases negative with
  | true => simp [decimalOf]
  | false =>
      obtain ⟨first, digits, whole, digit⟩ := proper.exists_first
      have unsigned : first ≠ '-' := ne_of_isDigit digit rfl
      have starts : numeral.text = first :: (numeral.text.tail) := by simp [text, whole]
      rw [starts]
      simp [decimalOf, unsigned]

end Numeral

namespace Binary64

theorem ofDigitChars_placed (places value : Nat) :
    Nat.ofDigitChars 10 ((placed places value).whole ++ (placed places value).part) 0 = value := by
  rw [Nat.ofDigitChars_append, Nat.ofDigitChars_eq_ofDigitChars_zero, length_placed]
  simp only [placed, Nat.ofDigitChars_ten_toDigits]
  by_cases none : places = 0
  · simp [none]
  · rw [if_neg none, padLeft, ofDigitChars_zeros_append, Nat.ofDigitChars_ten_toDigits]
    exact Nat.div_add_mod value (10 ^ places)

theorem unsignedDecimal_placedDigits (places value : Nat) :
    unsignedDecimal (placedDigits places value) = value / 10 ^ places := by
  rw [← text_placed, Numeral.unsignedDecimal_text (isProper_placed places value) rfl,
    ofDigitChars_placed, length_placed]

/-! Finite numbers. -/

variable (negative : Bool) (exponent : Fin 2047) (fraction : Fin (Nat.pow 2 52)) (places : Nat)

/-- What the fields of a finite number stand for. The fraction stands behind a leading one, or
behind a zero at the least exponent. -/
def amount : ℚ :=
  (if negative then -1 else 1) *
    if exponent.val = 0 then (fraction.val / 2 ^ 52 : ℚ) * 2 ^ (-1022 : ℤ)
    else (1 + fraction.val / 2 ^ 52 : ℚ) * 2 ^ (exponent.val - 1023 : ℤ)

theorem amount_eq :
    amount negative exponent fraction =
      (if negative then -1 else 1) * (units exponent fraction / unitsPerOne) := by
  have split : (unitsPerOne : ℚ) = 2 ^ 52 * 2 ^ (1022 : ℤ) := by
    rw [unitsPerOne_eq, Nat.cast_pow, Nat.cast_ofNat, ← zpow_natCast, ← zpow_natCast,
      ← zpow_add₀ two_ne_zero]
    congr 1
  rw [amount]
  congr 1
  by_cases least : exponent.val = 0
  · rw [if_pos least, units_of_zero exponent fraction least, split, zpow_neg]
    generalize (1022 : ℤ) = below
    field_simp
  · have moved : (exponent.val - 1023 : ℤ) = (exponent.val - 1 : Nat) - 1022 := by omega
    rw [if_neg least, units_of_ne_zero exponent fraction least, split, moved,
      zpow_sub₀ two_ne_zero, zpow_natCast]
    generalize (1022 : ℤ) = below
    push_cast
    field_simp
    norm_num

theorem fixed_finite :
    (finite negative exponent fraction).fixed places =
      (if negative then ['-'] else []) ++
        (placed places (scaled places (units exponent fraction))).text := by
  rw [text_placed]
  rfl

theorem isFixed_fixed :
    IsFixed negative places ((finite negative exponent fraction).fixed places) :=
  ⟨_, isProper_placed places _, rfl, length_placed places _,
    fixed_finite negative exponent fraction places⟩

/-- The multiple of the last place that a finite number is written as. -/
def rounded : ℤ := signed negative (scaled places (units exponent fraction))

theorem decimalOf_fixed :
    decimalOf ((finite negative exponent fraction).fixed places) =
      rounded negative exponent fraction places * (1 / 10 ^ places) := by
  rw [fixed_finite, Numeral.decimalOf_text (isProper_placed _ _), text_placed,
    unsignedDecimal_placedDigits, rounded, signed]
  generalize scaled places (units exponent fraction) = count
  cases negative with
  | true =>
      simp only [if_true, Int.cast_neg, Int.cast_natCast]
      ring
  | false =>
      simp only [Bool.false_eq_true, if_false, Int.cast_natCast]
      ring

theorem nearestMultiple_scaled (size : Nat) :
    NearestMultiple (1 / 10 ^ places) (size / unitsPerOne) (scaled places size) := by
  have positive : (0 : ℚ) < 1 / 10 ^ places := by positivity
  have nearest :=
    nearestMultiple_roundHalfEven positive (size * Nat.pow 10 places) unitsPerOne_pos
  have counted (one : ℚ) :
      ((size * Nat.pow 10 places : Nat) : ℚ) / one * (1 / 10 ^ places) = size / one := by
    rw [nat_pow_eq]
    push_cast
    field_simp
  rw [counted] at nearest
  exact nearest

theorem nearestMultiple_rounded :
    NearestMultiple (1 / 10 ^ places) (amount negative exponent fraction)
      (rounded negative exponent fraction places) := by
  have nearest := nearestMultiple_scaled places (units exponent fraction)
  rw [amount_eq, rounded, signed]
  cases negative with
  | true =>
      simp only [if_true, neg_one_mul]
      exact nearest.neg
  | false =>
      simp only [Bool.false_eq_true, if_false, one_mul]
      exact nearest

theorem decimalOf_fixed_mono {otherNegative : Bool} {otherExponent : Fin 2047}
    {otherFraction : Fin (Nat.pow 2 52)}
    (ordered : amount negative exponent fraction ≤
      amount otherNegative otherExponent otherFraction) :
    decimalOf ((finite negative exponent fraction).fixed places) ≤
      decimalOf ((finite otherNegative otherExponent otherFraction).fixed places) := by
  have positive : (0 : ℚ) < 1 / 10 ^ places := by positivity
  have multiples := (nearestMultiple_rounded negative exponent fraction places).mono positive
    (nearestMultiple_rounded otherNegative otherExponent otherFraction places) ordered
  rw [decimalOf_fixed, decimalOf_fixed]
  apply mul_le_mul_of_nonneg_right _ positive.le
  exact_mod_cast multiples

theorem numberToken_finite :
    numberToken (.places places) (.real (finite negative exponent fraction)) =
      if places ≤ mostPlaces then
        .ok (String.ofList ((finite negative exponent fraction).fixed places))
      else .error .placesTooLarge := by
  have least : leastPlaces ≤ places := le_trans (by decide) (Int.natCast_nonneg places)
  by_cases most : places ≤ mostPlaces
  · rw [numberToken, Precision.count, if_pos ⟨least, most⟩, if_pos most]
    rfl
  · rw [numberToken, Precision.count, if_neg (fun inside => most inside.2), if_neg most]
    rfl

/-- A finite number with so many decimal places is a decimal with its sign, and stands for the
nearest multiple of the last place, the even one on a tie. So it is at most half of that place away
from the number and keeps the order of numbers. No more than `mostPlaces` can be asked for. -/
theorem finite_numbers_rounded :
    numberToken (.places places) (.real (finite negative exponent fraction)) =
      (if places ≤ mostPlaces then
        .ok (String.ofList ((finite negative exponent fraction).fixed places))
      else .error .placesTooLarge) ∧
    IsFixed negative places ((finite negative exponent fraction).fixed places) ∧
    (∃ multiple : ℤ,
      decimalOf ((finite negative exponent fraction).fixed places) =
        multiple * (1 / 10 ^ places) ∧
      NearestMultiple (1 / 10 ^ places) (amount negative exponent fraction) multiple) ∧
    |decimalOf ((finite negative exponent fraction).fixed places) -
      amount negative exponent fraction| ≤ 1 / 10 ^ places / 2 ∧
    ∀ otherNegative otherExponent otherFraction,
      amount negative exponent fraction ≤ amount otherNegative otherExponent otherFraction →
        decimalOf ((finite negative exponent fraction).fixed places) ≤
          decimalOf ((finite otherNegative otherExponent otherFraction).fixed places) := by
  have positive : (0 : ℚ) < 1 / 10 ^ places := by positivity
  have nearest := nearestMultiple_rounded negative exponent fraction places
  refine ⟨numberToken_finite _ _ _ _, isFixed_fixed _ _ _ _,
    ⟨_, decimalOf_fixed _ _ _ _, nearest⟩, ?_, ?_⟩
  · rw [decimalOf_fixed]
    exact nearest.abs_sub_le positive
  · intro otherNegative otherExponent otherFraction ordered
    exact decimalOf_fixed_mono negative exponent fraction places ordered

/-- An eighth below zero and three eighths, each halfway between two hundredths. -/
theorem finite_numbers_rounded_eighths :
    amount true 1020 0 = -1 / 8 ∧ amount false 1021 2251799813685248 = 3 / 8 ∧
      numberToken (.places 2) (.real (finite true 1020 0)) = .ok "-0.12" ∧
      numberToken (.places 2) (.real (finite false 1021 2251799813685248)) = .ok "0.38" ∧
      decimalOf "-0.12".toList ≤ decimalOf "0.38".toList := by
  have eighth : amount true 1020 0 = -1 / 8 := by
    norm_num [amount]
  have eighths : amount false 1021 2251799813685248 = 3 / 8 := by
    norm_num [amount]
  have below : (finite true 1020 0).fixed 2 = "-0.12".toList := by decide +kernel
  have above : (finite false 1021 2251799813685248).fixed 2 = "0.38".toList := by decide +kernel
  obtain ⟨written, _, _, _, ordered⟩ := finite_numbers_rounded true 1020 0 2
  obtain ⟨otherWritten, _⟩ := finite_numbers_rounded false 1021 2251799813685248 2
  have order := ordered false 1021 2251799813685248 (by norm_num [eighth, eighths])
  rw [below] at written order
  rw [above] at otherWritten order
  exact ⟨eighth, eighths, written, otherWritten, order⟩

/-- Numbers are not written with every count of places. -/
theorem not_every_count_of_places :
    ¬∀ (negative : Bool) (exponent : Fin 2047) (fraction : Fin (Nat.pow 2 52)) (places : Nat),
      ∃ text, numberToken (.places places) (.real (finite negative exponent fraction)) = .ok text ∧
        IsFixed negative places text.toList := by
  intro every
  obtain ⟨text, written, _⟩ := every false 0 0 2147483648
  have failed : numberToken (.places 2147483648) (.real (finite false 0 0)) =
      .error .placesTooLarge := rfl
  rw [Nat.cast_ofNat, failed] at written
  cases written

end Binary64

end ScriptCatalog
