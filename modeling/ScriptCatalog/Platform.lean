import ScriptCatalog.Color

/-! What the program runs on: an interpreter with its limits, and a toolkit that passes texts on and
has colors by name, by number and by their components. Nothing but what is said here is known of
them; the limits depend on the interpreter and on the place from which the program is called. -/

namespace ScriptCatalog

class Platform where
  /-- The most digits that an integer can have to be read from a text or written as one. -/
  digits : Nat
  /-- No fewer digits than these can be asked for as the most. -/
  digits_ge : 640 ≤ digits
  /-- How many lists and objects of a document can be open at a time while it is read. -/
  reading : Nat
  /-- At least one can be open. -/
  reading_pos : 0 < reading
  /-- How many values can be inside each other for the outermost one to be written out. -/
  showing : Nat
  /-- A text as it is heard by those to whom it is signalled. -/
  passedText : String → String
  colorOfText : String → Color
  /-- The color of a number with a byte each for red, green and blue. -/
  colorOfCode : Nat → Color
  colorOfComponents (red green blue alpha : Int) : Color
  valid_colorOfComponents : ∀ red green blue alpha : Int,
    [red, green, blue, alpha].all Color.isByte → (colorOfComponents red green blue alpha).isValid

export Platform (passedText)

namespace Platform

/-- An interpreter with its usual limits, and a toolkit that passes texts on as 16-bit units. -/
instance standard : Platform where
  digits := 4300
  digits_ge := by decide
  reading := 988
  reading_pos := by decide
  showing := 980
  passedText := textOfPassedUnits
  colorOfText := Color.ofText
  colorOfCode := Color.ofCode
  colorOfComponents := Color.ofComponents
  valid_colorOfComponents red green blue alpha bytes := by
    rw [Color.ofComponents, if_pos bytes]

end Platform

/-- Whether an integer is short enough to be written out. -/
def isShort [Platform] (number : Int) : Bool := number.natAbs < Nat.pow 10 Platform.digits

theorem isShort_of_natAbs_lt [Platform] {number : Int} (small : number.natAbs < Nat.pow 10 100) :
    isShort number = true := by
  rw [isShort, decide_eq_true_eq]
  have enough : 100 ≤ Platform.digits := Nat.le_trans (by decide) Platform.digits_ge
  exact Nat.lt_of_lt_of_le small (Nat.pow_le_pow_right (by decide) enough)

end ScriptCatalog
