/-! Rounding a quotient of natural numbers to the nearest integer, ties to the even one. -/

namespace ScriptCatalog

def roundHalfEven (num den : Nat) : Nat :=
  if 2 * (num % den) < den then num / den
  else if den < 2 * (num % den) then num / den + 1
  else num / den + num / den % 2

theorem roundHalfEven_exact (value den : Nat) (positive : 0 < den) :
    roundHalfEven (value * den) den = value := by
  simp [roundHalfEven, positive]

theorem le_roundHalfEven (num den : Nat) : num / den ≤ roundHalfEven num den := by
  unfold roundHalfEven
  split
  · exact Nat.le_refl _
  · split <;> omega

theorem roundHalfEven_le (num den : Nat) : roundHalfEven num den ≤ num / den + 1 := by
  unfold roundHalfEven
  split
  · omega
  · split <;> omega

end ScriptCatalog
