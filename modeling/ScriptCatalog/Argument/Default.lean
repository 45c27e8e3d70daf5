import ScriptCatalog.Argument.Update

/-! Declared defaults. What form a default takes depends on the type of the argument:

* an item, image or display: an identifier, or nothing;
* a color: three components, a color, or a text that names one;
* a toggle: a truth value or an integer;
* any text, file or resource: a text, or nothing;
* an adjustment: value, lower and upper bound, step, page and digits, and perhaps 0 for a slider
  or 1 for a spin box;
* a brush: name, opacity, spacing and paint mode;
* an option: its labels, the first of which is selected;
* an enumeration: its name and the nickname of a value. -/

namespace ScriptCatalog

namespace Payload

variable [Platform]

/-- The items of a list or a tuple of one of the given lengths. -/
def expectSequence (lengths : List Nat) (default : Datum) : Except Fault (List Datum) :=
  match default.sequence? with
  | none => .error (.notSequence lengths default)
  | some items =>
      if lengths.contains items.length then .ok items
      else .error (.wrongLength lengths items.length)

def defaultText : Datum → Except Fault Datum
  | .null => .ok .null
  | .text words => .ok (.text words)
  | value => .error (.unexpectedType [.text] value)

def requiredText : Datum → Except Fault String
  | .text words => .ok words
  | value => .error (.unexpectedType [.text] value)

def defaultNumber : Datum → Except Fault Binary64
  | .real number => .ok number
  | .int number => (Binary64.ofInt? number).elim (.error .intTooLarge) .ok
  | value => .error (.notANumber value)

def defaultInteger : Datum → Except Fault Int
  | .int number => .ok number
  | value => .error (.notAnInteger value)

def defaultItemId : Datum → Except Fault Int
  | .null => .ok noItemId
  | value => defaultInteger value

def colorComponent (value : Datum) : Except Fault Int := do
  let component ← defaultInteger value
  if 0 ≤ component ∧ component ≤ 255 then return component
  else throw (.componentOutside component)

def defaultColor (default : Datum) : Except Fault Color := do
  let shade ← match default with
    | .color shade => pure shade
    | .text words => pure (Platform.colorOfText words)
    | other =>
        match ← expectSequence [3] other with
        | [red, green, blue] =>
            pure (Platform.colorOfComponents (← colorComponent red) (← colorComponent green)
              (← colorComponent blue) 255)
        | _ => pure Color.invalid
  if shade.isValid then return shade else throw (.invalidColor default)

def defaultToggle : Datum → Except Fault Bool
  | .bool active => .ok active
  | .int number => .ok (number != 0)
  | value => .error (.unexpectedType [.bool, .int] value)

def sliderShown : List Datum → Except Fault Bool
  | [] => .ok true
  | shape :: _ => do
      match ← defaultInteger shape with
      | 0 => return true
      | 1 => return false
      | other => throw (.unknownSlider other)

def defaultAdjustment (default : Datum) : Except Fault Payload := do
  match ← expectSequence [6, 7] default with
  | value :: lower :: upper :: step :: page :: digits :: shape =>
      let value ← defaultNumber value
      let lower ← defaultNumber lower
      let upper ← defaultNumber upper
      let step ← defaultNumber step
      let page ← defaultNumber page
      let digits ← defaultInteger digits
      let slider ← sliderShown shape
      if upper.less lower then throw (.boundsCrossed lower upper)
      return adjustment (.real value) (.real lower) (.real upper) (.real step) (.real page)
        (.int digits) (.bool slider)
  | items => throw (.wrongLength [6, 7] items.length)

def defaultBrush (default : Datum) : Except Fault Payload := do
  match ← expectSequence [4] default with
  | [name, opacity, spacing, paintMode] =>
      let name ← defaultText name
      let opacity ← defaultNumber opacity
      let spacing ← defaultInteger spacing
      let paintMode ← defaultInteger paintMode
      return brush name (.real opacity) (.int spacing) (.int paintMode)
  | items => throw (.wrongLength [4] items.length)

def defaultOption (default : Datum) : Except Fault Payload := do
  match default.sequence? with
  | some (first :: rest) =>
      let labels ← (first :: rest).mapM requiredText
      makeOption (labels.map .text) 0
  | _ => throw (.noLabels default)

def defaultEnum (types : EnumTypes) (default : Datum) : Except Fault Payload := do
  match ← expectSequence [2] default with
  | [typeName, nick] =>
      let typeName ← requiredText typeName
      let nick ← requiredText nick
      if ← types.contains (.text typeName) then
        let index ← types.indexOf (.text typeName) (.text nick)
        makeEnum types (.text typeName) (.int index)
      else throw (.unknownEnumDefault typeName)
  | items => throw (.wrongLength [2] items.length)

def ofDefault (types : EnumTypes) (kind : ArgKind) (default : Datum) : Except Fault Payload :=
  match kind.payloadKind with
  | .itemId => return itemId (.int (← defaultItemId default))
  | .color => return color (.color (← defaultColor default))
  | .toggle => return toggle (.bool (← defaultToggle default))
  | .rawText => return rawText (← defaultText default)
  | .text => return text (← defaultText default)
  | .adjustment => defaultAdjustment default
  | .file => return file (← defaultText default)
  | .resource => return resource (← defaultText default)
  | .brush => defaultBrush default
  | .option => defaultOption default
  | .enum => defaultEnum types default

end Payload

end ScriptCatalog
