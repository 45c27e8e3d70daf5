import Mathlib.Data.Nat.Digits.Defs
import ScriptCatalog.Proofs.Number.Numeral

/-! Numbers with a fixed count of decimal places. What is finite is written in decimal; what is not
has a name, and no decimal reads like one. -/

namespace ScriptCatalog

/-- Digits, a point and so many digits behind it, with a minus sign before them or not. -/
def IsDecimal (places : Nat) (word : List Char) : Prop :=
  ∃ negative whole fraction, word = Binary64.signChars negative ++ whole ++ '.' :: fraction ∧
    whole ≠ [] ∧ fraction.length = places ∧ ∀ c ∈ whole ++ fraction, c.isDigit = true

theorem isDigit_of_mem_padLeft {width value : Nat} {c : Char}
    (member : c ∈ padLeft width (Nat.toDigits 10 value)) : c.isDigit = true := by
  rcases List.mem_append.mp member with zero | digit
  · rw [List.eq_of_mem_replicate zero]
    rfl
  · exact Nat.isDigit_of_mem_toDigits (by decide) (by decide) digit

theorem length_padLeft {width : Nat} {digits : List Char} (fits : digits.length ≤ width) :
    (padLeft width digits).length = width := by
  rw [padLeft, List.length_append, List.length_replicate]
  omega

/-- What remains of a value after so many places has as many digits. -/
theorem length_placedPart {places : Nat} (positive : 0 < places) (value : Nat) :
    (padLeft places (Nat.toDigits 10 (value % Nat.pow 10 places))).length = places := by
  apply length_padLeft
  exact Nat.toDigits_length 10 _ places positive (Nat.mod_lt _ (Nat.pow_pos (by decide)))

namespace Binary64

def isFinite : Binary64 → Bool
  | finite .. => true
  | _ => false

/-- What stands for a number that is not finite. -/
def names : List (List Char) := ["nan".toList, "inf".toList, "-inf".toList]

/-- The numeral of `value / 10 ^ places`. -/
def placed (places value : Nat) : Numeral where
  whole := Nat.toDigits 10 (value / Nat.pow 10 places)
  part := if places = 0 then [] else padLeft places (Nat.toDigits 10 (value % Nat.pow 10 places))
  exponent := none

theorem length_placed (places value : Nat) : (placed places value).part.length = places := by
  rw [placed]
  by_cases none : places = 0
  · simp [none]
  · rw [if_neg none, length_placedPart (Nat.pos_of_ne_zero none)]

theorem part_placed_eq_nil_iff (places value : Nat) :
    (placed places value).part = [] ↔ places = 0 := by
  rw [← List.length_eq_zero_iff, length_placed]

theorem text_placed (places value : Nat) :
    (placed places value).text = placedDigits places value := by
  rw [Numeral.text_of_plain rfl]
  simp only [part_placed_eq_nil_iff]
  by_cases none : places = 0
  · simp [placed, placedDigits, none]
  · simp [placed, placedDigits, none]

theorem isProper_placed (places value : Nat) : (placed places value).IsProper := by
  constructor
  · by_cases zero : value / Nat.pow 10 places = 0
    · left
      simp only [placed, zero]
      rfl
    · right
      exact toDigits_significant (Nat.pos_of_ne_zero zero)
  · intro c member
    simp only [placed] at member
    split at member
    · simp at member
    · exact isDigit_of_mem_padLeft member

theorem isDecimal_placedDigits (negative : Bool) {places : Nat} (positive : 0 < places)
    (value : Nat) : IsDecimal places (signChars negative ++ placedDigits places value) := by
  have proper := isProper_placed places value
  obtain ⟨first, digits, whole, _⟩ := proper.exists_first
  refine ⟨negative, (placed places value).whole, (placed places value).part, ?_, ?_,
    length_placed places value, ?_⟩
  · rw [← text_placed, Numeral.text_of_plain rfl, if_neg, List.append_assoc]
    rw [part_placed_eq_nil_iff]
    exact positive.ne'
  · simp [whole]
  · intro c member
    rcases List.mem_append.mp member with whole | part
    · exact proper.isDigit_whole c whole
    · exact proper.part c part

theorem fixed_mem_names {number : Binary64} (notFinite : number.isFinite = false) (places : Nat) :
    number.fixed places ∈ names := by
  cases number with
  | nan => exact List.mem_cons_self
  | infinite negative =>
      change signChars negative ++ ['i', 'n', 'f'] ∈ names
      cases negative <;> decide
  | finite => cases notFinite

/-- Numbers are written in decimal exactly if they are finite. -/
theorem isDecimal_fixed_iff {places : Nat} (positive : 0 < places) (number : Binary64) :
    IsDecimal places (number.fixed places) ↔ number.isFinite = true := by
  constructor
  · rintro ⟨negative, whole, fraction, written, _⟩
    by_contra notFinite
    have named := fixed_mem_names (Bool.eq_false_iff.mpr notFinite) places
    have point : '.' ∈ number.fixed places := by simp [written]
    have without : ∀ word ∈ names, '.' ∉ word := by decide
    exact without _ named point
  · intro finite
    cases number with
    | finite negative exponent fraction => exact isDecimal_placedDigits negative positive _
    | _ => cases finite

end Binary64

end ScriptCatalog
