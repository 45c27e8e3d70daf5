import ScriptCatalog.Fault

/-! Colors made from values of other types: numbers stand for codes or components, and texts name
colors. -/

namespace ScriptCatalog

namespace Color

variable [Platform]

def ofNumber (code : Int) : Except Fault Color :=
  if 0 ≤ code ∧ code < Nat.pow 2 32 then .ok (Platform.colorOfCode code.toNat)
  else .error .colorNumberOutside

/-- The color that a value of any type converts to. Nothing converts to no color, and of a number
that is not whole only the whole part counts. -/
def ofDatum : Datum → Except Fault Color
  | .null => .ok invalid
  | .bool value => ofNumber (if value then 1 else 0)
  | .int value => ofNumber value
  | .real value => value.truncate?.elim (.error .colorNumberOutside) ofNumber
  | .text words => .ok (Platform.colorOfText words)
  | .color shade => .ok shade
  | _ => .error .notColor

/-- A number among the components of a color, which are numbers of 32 bits. -/
def component (value : Int) : Except Fault Int :=
  if value < -Nat.pow 2 63 ∨ Nat.pow 2 63 ≤ value then .error .componentTooLarge
  else if value < -Nat.pow 2 31 ∨ Nat.pow 2 31 ≤ value then .error .colorNumberOutside
  else .ok value

def componentOfDatum : Datum → Except Fault Int
  | .bool value => .ok (if value then 1 else 0)
  | .int value => component value
  | .real value => value.truncate?.elim (.error .colorNumberOutside) component
  | _ => .error .notColor

/-- The color of three components, or of four with the opacity; one value alone is converted, and
no value gives no color. -/
def ofValues : List Datum → Except Fault Color
  | [] => .ok invalid
  | [only] => ofDatum only
  | [red, green, blue] =>
      return Platform.colorOfComponents (← componentOfDatum red) (← componentOfDatum green)
        (← componentOfDatum blue) 255
  | [red, green, blue, alpha] =>
      return Platform.colorOfComponents (← componentOfDatum red) (← componentOfDatum green)
        (← componentOfDatum blue) (← componentOfDatum alpha)
  | _ => .error .notColor

end Color

end ScriptCatalog
