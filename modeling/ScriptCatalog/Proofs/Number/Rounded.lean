import Mathlib.Algebra.Order.Ring.Abs
import Mathlib.Algebra.Ring.Int.Parity
import Mathlib.Data.Rat.Cast.Order
import Mathlib.Tactic.FieldSimp
import Mathlib.Tactic.Linarith
import Mathlib.Tactic.Ring
import ScriptCatalog.Number.Rounding

/-! Rounding to whole multiples of a unit. The nearest multiple of a value, the even one where two
are as near, is at most half a unit away, keeps the order of values, and is what rounding a quotient
gives. -/

namespace ScriptCatalog

/-- A whole multiple of a unit such that no other one is nearer, and that is even if another one is
as near. -/
structure NearestMultiple (unit value : ℚ) (multiple : ℤ) : Prop where
  nearest : ∀ other : ℤ, |value - multiple * unit| ≤ |value - other * unit|
  even : ∀ other : ℤ, other ≠ multiple →
    |value - other * unit| = |value - multiple * unit| → Even multiple

section Halfway

variable {value lower upper : ℚ}

theorem abs_sub_upper_le_iff (ordered : lower < upper) :
    |value - upper| ≤ |value - lower| ↔ lower + upper ≤ 2 * value := by
  constructor
  · intro near
    cases abs_cases (value - upper) <;> cases abs_cases (value - lower) <;> linarith
  · intro above
    cases abs_cases (value - upper) <;> cases abs_cases (value - lower) <;> linarith

theorem abs_sub_lower_le_iff (ordered : lower < upper) :
    |value - lower| ≤ |value - upper| ↔ 2 * value ≤ lower + upper := by
  constructor
  · intro near
    cases abs_cases (value - upper) <;> cases abs_cases (value - lower) <;> linarith
  · intro below
    cases abs_cases (value - upper) <;> cases abs_cases (value - lower) <;> linarith

end Halfway

namespace NearestMultiple

variable {unit value greater : ℚ} {multiple next : ℤ}

theorem apart (positive : 0 < unit) (less : next < multiple) :
    next * unit + unit ≤ multiple * unit := by
  have step : (next : ℚ) + 1 ≤ multiple := by exact_mod_cast less
  have scaled := mul_le_mul_of_nonneg_right step positive.le
  linarith

theorem of_half (positive : 0 < unit) (near : 2 * |value - multiple * unit| ≤ unit)
    (tie : 2 * |value - multiple * unit| = unit → Even multiple) :
    NearestMultiple unit value multiple := by
  -- Half a unit at least is left from the value to any other multiple.
  have far (other : ℤ) (differs : other ≠ multiple) : unit ≤ 2 * |value - other * unit| := by
    rcases lt_or_gt_of_ne differs with less | greater
    · have gap := apart positive less
      have above := le_abs_self (value - other * unit)
      have close := neg_abs_le (value - multiple * unit)
      linarith
    · have gap := apart positive greater
      have below := neg_abs_le (value - other * unit)
      have close := le_abs_self (value - multiple * unit)
      linarith
  constructor
  · intro other
    by_cases same : other = multiple
    · rw [same]
    · linarith [far other same]
  · intro other differs tied
    apply tie
    linarith [far other differs]

theorem neg (nearest : NearestMultiple unit value multiple) :
    NearestMultiple unit (-value) (-multiple) := by
  have mirrored (other : ℤ) : |-value - other * unit| = |value - (-other : ℤ) * unit| := by
    rw [← abs_neg]
    congr 1
    push_cast
    ring
  constructor
  · intro other
    rw [mirrored, mirrored, neg_neg]
    exact nearest.nearest (-other)
  · intro other differs tied
    rw [mirrored, mirrored, neg_neg] at tied
    rw [even_neg]
    apply nearest.even (-other) _ tied
    intro same
    apply differs
    rw [← same, neg_neg]

/-- The nearest multiple is at most half a unit away. -/
theorem abs_sub_le (positive : 0 < unit) (nearest : NearestMultiple unit value multiple) :
    |multiple * unit - value| ≤ unit / 2 := by
  have above := nearest.nearest (multiple + 1)
  have below := nearest.nearest (multiple - 1)
  push_cast at above below
  rw [abs_sub_lower_le_iff (by linarith)] at above
  rw [abs_sub_upper_le_iff (by linarith)] at below
  rw [abs_le]
  constructor <;> linarith

/-- The nearest multiples of values in order are in order too. -/
theorem mono (positive : 0 < unit) (nearest : NearestMultiple unit value multiple)
    (nextNearest : NearestMultiple unit greater next) (ordered : value ≤ greater) :
    multiple ≤ next := by
  by_contra exchanged
  rw [not_le] at exchanged
  have gap := apart positive exchanged
  have less : (next : ℚ) * unit < multiple * unit := by linarith
  -- Each value would be halfway between the multiples, and both multiples would be even.
  have least := (abs_sub_upper_le_iff less).mp (nearest.nearest next)
  have most := (abs_sub_lower_le_iff less).mp (nextNearest.nearest multiple)
  have even : Even multiple := by
    apply nearest.even next exchanged.ne
    apply le_antisymm _ (nearest.nearest next)
    rw [abs_sub_lower_le_iff less]
    linarith
  have nextEven : Even next := by
    apply nextNearest.even multiple exchanged.ne'
    apply le_antisymm _ (nextNearest.nearest multiple)
    rw [abs_sub_upper_le_iff less]
    linarith
  -- But then there is a multiple halfway between them, which is nearer than they are.
  obtain ⟨half, rfl⟩ := even
  obtain ⟨nextHalf, rfl⟩ := nextEven
  have middle := nearest.nearest (half + nextHalf)
  push_cast at middle least most less
  rw [abs_sub_upper_le_iff (by linarith)] at middle
  linarith

end NearestMultiple

/-! Quotients. -/

theorem two_mul_abs_sub_roundHalfEven (num : Nat) {den : Nat} (positive : 0 < den) :
    2 * |(num : ℤ) - roundHalfEven num den * den| ≤ den ∧
      (2 * |(num : ℤ) - roundHalfEven num den * den| = den → Even (roundHalfEven num den)) := by
  have parts := Nat.div_add_mod num den
  have bound := Nat.mod_lt num positive
  unfold roundHalfEven
  generalize num / den = quotient at *
  generalize num % den = remainder at *
  have down : |(num : ℤ) - quotient * den| = remainder := by
    rw [← parts, ← abs_of_nonneg (Int.natCast_nonneg remainder)]
    congr 1
    push_cast
    ring
  have up : |(num : ℤ) - (quotient + 1 : Nat) * den| = den - remainder := by
    rw [← parts, ← abs_of_nonneg (show (0 : ℤ) ≤ den - remainder by omega), ← abs_neg]
    congr 1
    push_cast
    ring
  rw [Nat.even_iff]
  split
  next below =>
    rw [down]
    omega
  next notBelow =>
    split
    next above =>
      rw [up]
      omega
    next notAbove =>
      rcases Nat.mod_two_eq_zero_or_one quotient with even | odd
      · rw [even, Nat.add_zero, down]
        omega
      · rw [odd, up]
        omega

/-- Rounding a quotient gives the nearest multiple of the unit that the quotient is counted in. -/
theorem nearestMultiple_roundHalfEven {unit : ℚ} (unitPositive : 0 < unit) (num : Nat) {den : Nat}
    (positive : 0 < den) : NearestMultiple unit (num / den * unit) (roundHalfEven num den) := by
  obtain ⟨near, tie⟩ := two_mul_abs_sub_roundHalfEven num positive
  have denPositive : (0 : ℚ) < den := by exact_mod_cast positive
  have sharePositive : 0 < unit / den := div_pos unitPositive denPositive
  have whole : (den : ℤ) * (unit / den) = unit := mul_div_cancel₀ unit denPositive.ne'
  have distance : 2 * |num / den * unit - (roundHalfEven num den : ℤ) * unit| =
      (2 * |(num : ℤ) - roundHalfEven num den * den| : ℤ) * (unit / den) := by
    have shares : num / den * unit - (roundHalfEven num den : ℤ) * unit =
        ((num : ℤ) - roundHalfEven num den * den : ℤ) * (unit / den) := by
      push_cast
      field_simp
    rw [shares, abs_mul, abs_of_pos sharePositive, ← mul_assoc]
    push_cast
    rfl
  apply NearestMultiple.of_half unitPositive
  · calc 2 * |num / den * unit - (roundHalfEven num den : ℤ) * unit|
        = (2 * |(num : ℤ) - roundHalfEven num den * den| : ℤ) * (unit / den) := distance
      _ ≤ (den : ℤ) * (unit / den) :=
          mul_le_mul_of_nonneg_right (by exact_mod_cast near) sharePositive.le
      _ = unit := whole
  · intro tied
    have counted : (2 * |(num : ℤ) - roundHalfEven num den * den| : ℤ) * (unit / den) =
        (den : ℤ) * (unit / den) := by rw [← distance, tied, whole]
    have half := mul_right_cancel₀ sharePositive.ne' counted
    exact_mod_cast tie (by exact_mod_cast half)

end ScriptCatalog
