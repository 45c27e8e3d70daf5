import ScriptCatalog.Argument.Token
import ScriptCatalog.Color.Conversion
import ScriptCatalog.EnumTypes

/-! Making, copying and updating the payloads of arguments. A selection is checked against its
choices whenever a payload that holds one is made. -/

namespace ScriptCatalog

namespace Payload

variable [Platform]

def makeOption (labels : List Datum) (selected : Int) : Except Fault Payload := do
  let position ← expectInside selected labels.length labels.length
  return option labels position

/-- An option made from values of any type. -/
def makeOptionOf (labels selected : Datum) : Except Fault Payload := do
  let position ← expectIndex selected labels false
  return option (← labels.items) position

def makeEnum (types : EnumTypes) (typeName selected : Datum) : Except Fault Payload := do
  match ← types.nicks? typeName with
  | none => throw (.unboundEnum typeName)
  | some nicks =>
      let index ← selected.index
      let position ← expectInside index nicks.length nicks.length
      return enum typeName position

/-- An independent copy, for which a selection is checked again and a color is made from whatever
stands for it. -/
def copy (types : EnumTypes) : Payload → Except Fault Payload
  | color shade => return color (.color (← Color.ofDatum shade))
  | option labels selected => makeOption labels selected
  | enum typeName selected => makeEnum types typeName (.int selected)
  | payload => .ok payload

def paramText : Datum → Except Fault Datum
  | .null => .ok .null
  | .text words => .ok (.text words)
  | value => .error (.wrongParameter [.text] value)

def paramSelection : Datum → Except Fault Int
  | .int index => .ok index
  | .bool value => .error (.boolParameter [.int] value)
  | value => .error (.wrongParameter [.int] value)

def paramItemId : Datum → Except Fault Int
  | .null => .ok noItemId
  | .object _ (.int id) => .ok id
  | value => .error (.notItem value)

def paramColor : Datum → Except Fault Color
  | .color shade => .ok shade
  | value => .error (.wrongParameter [.color] value)

def paramToggle : Datum → Except Fault Bool
  | .bool active => .ok active
  | .int number => .ok (number != 0)
  | value => .error (.wrongParameter [.bool, .int] value)

def paramNumber : Datum → Except Fault Binary64
  | .real number => .ok number
  | .int number => (Binary64.ofInt? number).elim (.error .intTooLarge) .ok
  | .bool value => .error (.boolParameter [.int, .real] value)
  | value => .error (.wrongParameter [.int, .real] value)

/-- The payload that holds what the host passed in and keeps the fixed properties of this one. A
brush passed in whole replaces all of a brush. -/
def updated (types : EnumTypes) : Payload → Datum → Except Fault Payload
  | itemId _, param => return itemId (.int (← paramItemId param))
  | color _, param => return color (.color (← paramColor param))
  | toggle _, param => return toggle (.bool (← paramToggle param))
  | rawText _, param => return rawText (← paramText param)
  | text _, param => return text (← paramText param)
  | adjustment _ lower upper step page digits slider, param =>
      return adjustment (.real (← paramNumber param)) lower upper step page digits slider
  | file _, param => return file (← paramText param)
  | resource _, param => return resource (← paramText param)
  | brush .., .payload (brush name opacity spacing paintMode) =>
      .ok (brush name opacity spacing paintMode)
  | brush _ opacity spacing paintMode, param =>
      return brush (← paramText param) opacity spacing paintMode
  | option labels _, param => do makeOption labels (← paramSelection param)
  | enum typeName _, param => do makeEnum types typeName (.int (← paramSelection param))

/-- The token of what the host passed in. Hosts pass brushes by name, and then the token is the
name alone. -/
def paramToken (types : EnumTypes) (precision : Precision) : Payload → Datum → Except Fault Datum
  | brush .., .payload (brush name opacity spacing paintMode) =>
      token precision (brush name opacity spacing paintMode)
  | brush .., param => return .text (← textToken (← paramText param))
  | payload, param => do (← payload.updated types param).token precision

end Payload

end ScriptCatalog
