import Mathlib.Algebra.Order.Group.Nat
import Mathlib.Algebra.Order.Ring.Nat
import ScriptCatalog.Number.Shortest

/-! The number nearest to a decimal. It depends on what the decimal stands for alone, not on how
that is split into digits and an exponent, and a finite number is read back from the decimal that
stands for it. -/

namespace ScriptCatalog

theorem roundHalfEven_mul_right (num den : Nat) {factor : Nat} (positive : 0 < factor) :
    roundHalfEven (num * factor) (den * factor) = roundHalfEven num den := by
  simp only [roundHalfEven, Nat.mul_div_mul_right _ _ positive, Nat.mul_mod_mul_right,
    ← Nat.mul_assoc 2, Nat.mul_lt_mul_right positive]

theorem roundHalfEven_of_lt {num den : Nat} (small : 2 * num < den) :
    roundHalfEven num den = 0 := by
  have below : num < den := by omega
  rw [roundHalfEven, Nat.mod_eq_of_lt below, if_pos small, Nat.div_eq_of_lt below]

/-- A number of a certain count of binary digits, the first of which is not zero. -/
theorem log2_mul_pow {size places : Nat} (spare : Nat) (least : 2 ^ places ≤ size)
    (most : size < 2 ^ (places + 1)) : (size * 2 ^ spare).log2 = places + spare := by
  have positive : 0 < 2 ^ spare := pow_pos two_pos spare
  have size_pos : 0 < size := lt_of_lt_of_le (pow_pos two_pos places) least
  refine (Nat.log2_eq_iff (Nat.mul_pos size_pos positive).ne').mpr ⟨?_, ?_⟩
  · rw [pow_add]
    exact Nat.mul_le_mul_right _ least
  · rw [Nat.add_right_comm, pow_add]
    exact (Nat.mul_lt_mul_right positive).mpr most

theorem le_log2_of_pow_le {size places : Nat} (large : 2 ^ places ≤ size) : places ≤ size.log2 :=
  (Nat.le_log2 (lt_of_lt_of_le (pow_pos two_pos places) large).ne').mpr large

theorem log2_lt_of_lt_pow {size places : Nat} (positive : 0 < places) (small : size < 2 ^ places) :
    size.log2 < places := by
  by_cases zero : size = 0
  · rw [zero]
    exact positive
  · exact (Nat.log2_lt zero).mpr small

theorem nat_pow_eq (base exponent : Nat) : Nat.pow base exponent = base ^ exponent := rfl

namespace Binary64

variable (negative : Bool) (exponent : Fin 2047) (fraction : Fin (Nat.pow 2 52))

theorem unitsPerOne_eq : unitsPerOne = 2 ^ 1074 := by
  unfold unitsPerOne
  generalize 1074 = places
  exact nat_pow_eq 2 places

theorem unitsPerOne_pos : 0 < unitsPerOne := by
  rw [unitsPerOne_eq]
  exact pow_pos two_pos 1074

/-! Ranks. -/

theorem ofRank_zero : ofRank negative 0 = finite negative 0 0 := by
  rw [ofRank, dif_pos (by decide)]
  rfl

theorem ofRank_of_le {rank : Nat} (large : 2047 * 2 ^ 52 ≤ rank) :
    ofRank negative rank = infinite negative := by
  rw [ofRank, dif_neg]
  exact Nat.not_lt.mpr large

/-- The rank of a finite number is made of its exponent and its fraction side by side. -/
theorem ofRank_eq_finite :
    ofRank negative (fraction + exponent * 2 ^ 52) = finite negative exponent fraction := by
  obtain ⟨exponent, exponentBound⟩ := exponent
  obtain ⟨fraction, fractionBound⟩ := fraction
  have inside : fraction < 2 ^ 52 := fractionBound
  have bound : fraction + exponent * 2 ^ 52 < 2047 * Nat.pow 2 52 := by
    rw [Nat.pow_eq]
    omega
  have above : (fraction + exponent * 2 ^ 52) / 2 ^ 52 = exponent := by omega
  have below : (fraction + exponent * 2 ^ 52) % 2 ^ 52 = fraction := by omega
  unfold ofRank
  dsimp only
  rw [dif_pos bound]
  congr 2

/-! Ratios. -/

theorem ofRatio_eq {num den spare : Nat} (places : (num * unitsPerOne / den).log2 - 52 = spare) :
    ofRatio negative num den = ofRank negative
      (roundHalfEven (num * unitsPerOne) (den * 2 ^ spare) + spare * 2 ^ 52) := by
  subst places
  rfl

theorem ofRatio_mul_right (num den : Nat) {factor : Nat} (positive : 0 < factor) :
    ofRatio negative (num * factor) (den * factor) = ofRatio negative num den := by
  simp only [ofRatio, Nat.mul_right_comm _ factor, Nat.mul_div_mul_right _ _ positive,
    roundHalfEven_mul_right _ _ positive]

theorem ofRatio_congr {num den other otherDen : Nat} (positive : 0 < den)
    (otherPositive : 0 < otherDen) (same : num * otherDen = other * den) :
    ofRatio negative num den = ofRatio negative other otherDen := by
  rw [← ofRatio_mul_right negative num den otherPositive, same, Nat.mul_comm den,
    ofRatio_mul_right negative other otherDen positive]

theorem ofRatio_of_le {num den far : Nat} (positive : 0 < den) (enough : 2099 ≤ far)
    (large : 2 ^ far * den ≤ num * unitsPerOne) : ofRatio negative num den = infinite negative := by
  have places : far ≤ (num * unitsPerOne / den).log2 :=
    le_log2_of_pow_le ((Nat.le_div_iff_mul_le positive).mpr large)
  refine ofRank_of_le negative (le_trans ?_ (Nat.le_add_left _ _))
  exact Nat.mul_le_mul_right _ (by omega)

theorem ofRatio_of_lt {num den : Nat} (small : 2 * (num * unitsPerOne) < den) :
    ofRatio negative num den = finite negative 0 0 := by
  have spare : (num * unitsPerOne / den).log2 - 52 = 0 := by
    rw [Nat.div_eq_of_lt (by omega), Nat.log2_zero]
  rw [ofRatio_eq negative spare, pow_zero, Nat.mul_one, roundHalfEven_of_lt small]
  exact ofRank_zero negative

theorem units_of_zero (least : exponent.val = 0) : units exponent fraction = fraction.val :=
  if_pos least

theorem units_of_ne_zero (above : exponent.val ≠ 0) :
    units exponent fraction = (2 ^ 52 + fraction.val) * 2 ^ (exponent.val - 1) :=
  if_neg above

/-- No finite number is larger than the one with the last exponent and fraction. -/
theorem units_le : units exponent fraction ≤ (2 ^ 53 - 1) * 2 ^ 2045 := by
  have part : fraction.val < 2 ^ 52 := fraction.isLt
  by_cases least : exponent.val = 0
  · have small : fraction.val ≤ 2 ^ 53 - 1 := by omega
    rw [units_of_zero exponent fraction least]
    exact small.trans (Nat.le_mul_of_pos_right _ (Nat.two_pow_pos 2045))
  · have mantissa : 2 ^ 52 + fraction.val ≤ 2 ^ 53 - 1 := by omega
    have scale : 2 ^ (exponent.val - 1) ≤ 2 ^ 2045 :=
      Nat.pow_le_pow_right (by decide) (by omega)
    rw [units_of_ne_zero exponent fraction least]
    exact Nat.mul_le_mul mantissa scale

/-- A finite number is the one nearest to itself. -/
theorem ofRatio_units :
    ofRatio negative (units exponent fraction) unitsPerOne = finite negative exponent fraction := by
  have inside : fraction.val < 2 ^ 52 := fraction.isLt
  have rank := ofRank_eq_finite negative exponent fraction
  have size : units exponent fraction * unitsPerOne / unitsPerOne = units exponent fraction :=
    Nat.mul_div_cancel _ unitsPerOne_pos
  by_cases least : exponent.val = 0
  · have places : fraction.val.log2 < 52 := log2_lt_of_lt_pow (by decide) inside
    have spare : (units exponent fraction * unitsPerOne / unitsPerOne).log2 - 52 = 0 := by
      rw [size, units_of_zero exponent fraction least]
      omega
    rw [ofRatio_eq negative spare, pow_zero, Nat.mul_one, roundHalfEven_exact _ _ unitsPerOne_pos,
      units_of_zero exponent fraction least]
    rw [least] at rank
    exact rank
  · have above := units_of_ne_zero exponent fraction least
    have places : (units exponent fraction).log2 = 52 + (exponent.val - 1) := by
      rw [above]
      exact log2_mul_pow _ (by omega) (by omega)
    have spare : (units exponent fraction * unitsPerOne / unitsPerOne).log2 - 52 =
        exponent.val - 1 := by
      rw [size]
      omega
    rw [ofRatio_eq negative spare, above, Nat.mul_assoc, Nat.mul_comm (2 ^ (exponent.val - 1)),
      roundHalfEven_exact _ _ (Nat.mul_pos unitsPerOne_pos (pow_pos two_pos _)), ← rank]
    congr 1
    omega

/-! Decimals. -/

/-- Ten to some power exceeds what two to three times that power is. -/
theorem two_pow_le_ten_pow (places : Nat) : 2 ^ (3 * places) ≤ 10 ^ places := by
  rw [pow_mul]
  exact Nat.pow_le_pow_left (by decide) places

theorem le_mul_ten_pow {digits above below far : Nat} (positive : 0 < digits)
    (large : far + below ≤ above + digits.log2 / 4) :
    2 ^ (3 * far) * 10 ^ below ≤ digits * 10 ^ above := by
  have least : 10 ^ (digits.log2 / 4) ≤ digits := by
    calc 10 ^ (digits.log2 / 4) ≤ (2 ^ 4) ^ (digits.log2 / 4) := Nat.pow_le_pow_left (by decide) _
      _ = 2 ^ (4 * (digits.log2 / 4)) := (pow_mul _ _ _).symm
      _ ≤ 2 ^ digits.log2 := Nat.pow_le_pow_right two_pos (Nat.mul_div_le _ _)
      _ ≤ digits := Nat.log2_self_le positive.ne'
  calc 2 ^ (3 * far) * 10 ^ below ≤ 10 ^ far * 10 ^ below :=
        Nat.mul_le_mul_right _ (two_pow_le_ten_pow far)
    _ = 10 ^ (far + below) := (pow_add _ _ _).symm
    _ ≤ 10 ^ (digits.log2 / 4 + above) := Nat.pow_le_pow_right (by decide) (by omega)
    _ = 10 ^ (digits.log2 / 4) * 10 ^ above := pow_add _ _ _
    _ ≤ digits * 10 ^ above := Nat.mul_le_mul_right _ least

theorem mul_ten_pow_lt {digits above below far : Nat}
    (small : far + above + digits.log2 ≤ below) :
    digits * 10 ^ above * 2 ^ (3 * far) < 2 * 10 ^ below := by
  have most : digits < 2 * 10 ^ digits.log2 := by
    calc digits < 2 ^ (digits.log2 + 1) := Nat.lt_log2_self
      _ = 2 * 2 ^ digits.log2 := pow_succ' _ _
      _ ≤ 2 * 10 ^ digits.log2 := Nat.mul_le_mul_left _ (Nat.pow_le_pow_left (by decide) _)
  calc digits * 10 ^ above * 2 ^ (3 * far)
      ≤ digits * 10 ^ above * 10 ^ far := Nat.mul_le_mul_left _ (two_pow_le_ten_pow far)
    _ = digits * 10 ^ (above + far) := by rw [Nat.mul_assoc, pow_add]
    _ < 2 * 10 ^ digits.log2 * 10 ^ (above + far) :=
        (Nat.mul_lt_mul_right (pow_pos (by decide) _)).mpr most
    _ = 2 * 10 ^ (digits.log2 + (above + far)) := by rw [Nat.mul_assoc, ← pow_add]
    _ ≤ 2 * 10 ^ below :=
        Nat.mul_le_mul_left _ (Nat.pow_le_pow_right (by decide) (by omega))

/-- A decimal is a ratio of whole numbers, whatever its exponent. -/
theorem ofDecimal_eq_ofRatio {digits : Nat} (positive : 0 < digits) (exponent : Int) :
    ofDecimal negative digits exponent =
      ofRatio negative (digits * 10 ^ exponent.toNat) (10 ^ (-exponent).toNat) := by
  unfold ofDecimal
  rw [if_neg positive.ne']
  split
  next large =>
    have far : 401 + (-exponent).toNat ≤ exponent.toNat + digits.log2 / 4 := by omega
    have enough : 2099 ≤ 3 * 401 + 1074 := by decide
    refine (ofRatio_of_le negative (pow_pos (by decide) _) enough ?_).symm
    rw [pow_add, ← unitsPerOne_eq, Nat.mul_right_comm]
    exact Nat.mul_le_mul_right _ (le_mul_ten_pow positive far)
  next =>
    split
    next small =>
      refine (ofRatio_of_lt negative ?_).symm
      have far : 401 + exponent.toNat + digits.log2 ≤ (-exponent).toNat := by omega
      have scale : 2 ^ 2 * unitsPerOne ≤ 2 ^ (3 * 401) := by
        rw [unitsPerOne_eq, ← pow_add]
        exact pow_le_pow_right₀ one_le_two (by decide)
      have bound := Nat.mul_le_mul_left (digits * 10 ^ exponent.toNat) scale
      have below := mul_ten_pow_lt far
      rw [Nat.mul_left_comm] at bound
      omega
    next =>
      split
      next below =>
        have above : exponent.toNat = 0 := by omega
        have size : (-exponent).toNat = exponent.natAbs := by omega
        rw [above, size, pow_zero, Nat.mul_one, nat_pow_eq]
      next above =>
        have below : (-exponent).toNat = 0 := by omega
        have size : exponent.toNat = exponent.natAbs := by omega
        rw [below, size, pow_zero, nat_pow_eq]

/-- Digits followed by zeros stand for as much with an exponent that is less by as many. -/
theorem ofDecimal_shift {digits : Nat} (positive : 0 < digits) (places : Nat) (exponent : Int) :
    ofDecimal negative (digits * 10 ^ places) (exponent - places) =
      ofDecimal negative digits exponent := by
  have ten (places : Nat) : 0 < 10 ^ places := pow_pos (by decide) places
  rw [ofDecimal_eq_ofRatio negative (Nat.mul_pos positive (ten places)),
    ofDecimal_eq_ofRatio negative positive]
  refine ofRatio_congr negative (ten _) (ten _) ?_
  rw [Nat.mul_assoc, Nat.mul_assoc, Nat.mul_assoc, ← pow_add, ← pow_add, ← pow_add]
  congr 2
  omega

/-! Signs. -/

/-- A number with a sign of its own. -/
def withSign : Binary64 → Binary64
  | nan => nan
  | infinite _ => infinite negative
  | finite _ exponent fraction => finite negative exponent fraction

theorem withSign_ofRatio (num den : Nat) :
    (ofRatio false num den).withSign negative = ofRatio negative num den := by
  unfold ofRatio ofRank
  dsimp only
  split
  · rfl
  · rfl

theorem withSign_ofDecimal (digits : Nat) (exponent : Int) :
    (ofDecimal false digits exponent).withSign negative = ofDecimal negative digits exponent := by
  by_cases zero : digits = 0
  · rw [ofDecimal, ofDecimal, if_pos zero, if_pos zero]
    rfl
  · have positive : 0 < digits := Nat.pos_of_ne_zero zero
    rw [ofDecimal_eq_ofRatio false positive, ofDecimal_eq_ofRatio negative positive,
      withSign_ofRatio]

/-! Sizes. -/

variable {exponent fraction}

theorem units_inj {other : Fin 2047} {otherFraction : Fin (Nat.pow 2 52)}
    (same : units exponent fraction = units other otherFraction) :
    exponent = other ∧ fraction = otherFraction := by
  have numbers := (ofRatio_units false exponent fraction).symm.trans
    ((congrArg (ofRatio false · unitsPerOne) same).trans (ofRatio_units false other otherFraction))
  simp only [finite.injEq, true_and] at numbers
  exact numbers

/-- A decimal that reads back as a size stands for the number of that size. -/
theorem ofDecimal_of_readsBack {decimal : Decimal}
    (back : readsBack (units exponent fraction) decimal = true) :
    ofDecimal false decimal.digits decimal.exponent = finite false exponent fraction := by
  unfold readsBack at back
  split at back
  next sign otherExponent otherFraction read =>
    obtain ⟨rfl, rfl⟩ := units_inj (eq_of_beq back)
    rw [← withSign_ofDecimal, read]
    rfl
  next => cases back

/-- A multiple of a power of one half is a decimal of as many places. -/
theorem ofDecimal_mul_five_pow {size : Nat} (positive : 0 < size) (places : Nat) :
    ofDecimal negative (size * Nat.pow 5 places) (-places) =
      ofRatio negative size (2 ^ places) := by
  have five : 0 < Nat.pow 5 places := pow_pos (by decide) places
  have none : (-places : Int).toNat = 0 := by omega
  have all : (-(-places : Int)).toNat = places := by omega
  rw [ofDecimal_eq_ofRatio negative (Nat.mul_pos positive five), none, all]
  refine ofRatio_congr negative (pow_pos (by decide) _) (pow_pos two_pos _) ?_
  have tens : 5 ^ places * 2 ^ places = 10 ^ places := (mul_pow 5 2 places).symm
  rw [pow_zero, Nat.mul_one, nat_pow_eq, Nat.mul_assoc, tens]

/-- Every size has a decimal that reads back: one of few digits, or one of all its places. -/
theorem ofDecimal_shortest (nonzero : units exponent fraction ≠ 0) :
    ofDecimal negative (shortest (units exponent fraction)).digits
      (shortest (units exponent fraction)).exponent = finite negative exponent fraction := by
  unfold shortest
  cases found : (List.range 17).findSome? fun count =>
      (candidates (units exponent fraction) (count + 1)).find?
        (readsBack (units exponent fraction)) with
  | none =>
      have exponent : (-1074 : Int) = -(1074 : Nat) := rfl
      rw [Option.getD_none, ← ofRatio_units, unitsPerOne_eq, exponent]
      generalize 1074 = places
      exact ofDecimal_mul_five_pow negative (Nat.pos_of_ne_zero nonzero) places
  | some decimal =>
      obtain ⟨count, _, candidate⟩ := List.exists_of_findSome?_eq_some found
      have back := ofDecimal_of_readsBack (List.find?_some candidate)
      rw [Option.getD_some, ← withSign_ofDecimal, back]
      rfl

theorem shortest_digits_pos (nonzero : units exponent fraction ≠ 0) :
    0 < (shortest (units exponent fraction)).digits := by
  refine Nat.pos_of_ne_zero fun zero => nonzero ?_
  have read := ofDecimal_shortest false nonzero
  rw [zero, ofDecimal, if_pos rfl] at read
  cases read
  rfl

end Binary64

end ScriptCatalog
