import ScriptCatalog.Check
import ScriptCatalog.Text.Escape

/-! Payloads as tokens of a command, which the script interpreter reads back. -/

namespace ScriptCatalog

/-- How many decimal places numbers are written with. Settings can hold something else than a
count, which is a fault as soon as a number is to be written. -/
inductive Precision where
  | places (count : Int)
  | unusable
  deriving DecidableEq

/-- The least and the largest count of decimal places that can be asked for. Fewer than none
count as none. -/
def leastPlaces : Int := -Nat.pow 2 31

def mostPlaces : Int := Nat.pow 2 31 - 1

namespace Precision

def ofDatum : Datum → Precision
  | .int count => places count
  | .bool value => places (if value then 1 else 0)
  | _ => unusable

def ofScalar (value : Scalar) : Precision := ofDatum (.ofScalar value)

/-- The decimal places that numbers are written with where nothing else is asked for. -/
def standard : Precision := places 6

def count : Precision → Except Fault Nat
  | places count =>
      if leastPlaces ≤ count ∧ count ≤ mostPlaces then .ok count.toNat else .error .placesTooLarge
  | unusable => .error .placesNotInt

end Precision

def realNumber : Datum → Except Fault Binary64
  | .real number => .ok number
  | .int number => (Binary64.ofInt? number).elim (.error .intTooLarge) .ok
  | .bool value => .ok (if value then .one else .zero)
  | other => .error (.notReal other.typeName)

def numberToken (precision : Precision) (value : Datum) : Except Fault String := do
  let places ← precision.count
  let number ← realNumber value
  return String.ofList (number.fixed places)

/-- Characters are escaped; longer texts are not looked into. -/
def escapeItem (item : String) : String := if item.length = 1 then escape item else item

/-- A text with its escapes. What is not a text is escaped item by item. -/
def escapedText : Datum → Except Fault String
  | .text words => .ok (escape words)
  | other => do
      let items ← other.items
      items.forM Datum.expectHashable
      return String.join ((← Datum.expectTexts 0 items).map escapeItem)

def textToken : Datum → Except Fault String
  | .null => .ok (quote none)
  | .text words => .ok (quote (some words))
  | other => return "\"" ++ (← escapedText other) ++ "\""

def noItemId : Int := -1

variable [Platform]

def idToken : Datum → Except Fault String
  | .null => Datum.written (.int noItemId)
  | id => id.written

def Color.token (color : Color) : String :=
  "'(" ++ " ".intercalate (color.bytes.map toString) ++ ")"

def colorToken : Datum → Except Fault String
  | .color shade => .ok shade.token
  | other => .error (.noAttribute other.typeName "red")

def toggleToken (active : Datum) : String := if active.truth then "TRUE" else "FALSE"

/-- Raw text stands as it is. Were it empty, the tokens after it would move up. -/
def rawToken : Datum → Except Fault Datum
  | .null => .ok (.text (quote none))
  | words => do if (← words.size) = 0 then return .text (quote none) else return words

def brushToken (precision : Precision) (name opacity spacing paintMode : Datum) :
    Except Fault String := do
  let name ← textToken name
  let opacity ← numberToken precision opacity
  let spacing ← spacing.written
  let paintMode ← paintMode.written
  return "'(" ++ name ++ " " ++ opacity ++ " " ++ spacing ++ " " ++ paintMode ++ ")"

/-- The token of a payload: a text, unless a payload of raw text holds something else. -/
def Payload.token (precision : Precision) : Payload → Except Fault Datum
  | itemId id => return .text (← idToken id)
  | color shade => return .text (← colorToken shade)
  | toggle active => .ok (.text (toggleToken active))
  | rawText words => rawToken words
  | text words => return .text (← textToken words)
  | adjustment value .. => return .text (← numberToken precision value)
  | file filename => return .text (← textToken filename)
  | resource name => return .text (← textToken name)
  | brush name opacity spacing paintMode =>
      return .text (← brushToken precision name opacity spacing paintMode)
  | option _ selected => .ok (.text (toString selected))
  | enum _ selected => .ok (.text (toString selected))

end ScriptCatalog
