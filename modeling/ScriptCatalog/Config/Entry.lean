import ScriptCatalog.Config.Parameter

/-! Settings as they are defined: a type, a default, a label, a category, a description, perhaps
a range, and whether the value is saved. A setting is a parameter that has its label for a name. -/

namespace ScriptCatalog

variable [Platform]

structure ConfigEntry where
  key : String
  parameter : Parameter
  category : Datum
  saved : Bool
  value : Scalar

namespace Json

def typeName (value : Json) : TypeName := (Datum.ofJson value).typeName

def toInt : Json → Except Fault Int
  | bool value => .ok (if value then 1 else 0)
  | int value => .ok value
  | real .nan => .error .nanToInt
  | real value => value.truncate?.elim (.error .infinityToInt) .ok
  | string value =>
      match readInt? value with
      | none => .error (.notIntText value)
      | some number =>
          if countDigits value ≤ Platform.digits then .ok number
          else .error (.beyondReader (.digits Platform.digits (countDigits value)))
  | other => .error (.notIntSource other.typeName)

def toReal : Json → Except Fault Binary64
  | bool value => .ok (if value then .one else .zero)
  | int value => (Binary64.ofInt? value).elim (.error .intTooLarge) .ok
  | real value => .ok value
  | string value => (readBinary64? value).elim (.error (.notRealText value)) .ok
  | other => .error (.notRealSource other.typeName)

end Json

namespace ConfigEntry

def coerce (kind : ScalarKind) (value : Json) : Except Fault Scalar :=
  match kind with
  | .bool => .ok (.bool (Datum.ofJson value).truth)
  | .int => return .int (← value.toInt)
  | .real => return .real (← value.toReal)
  | .text => return .text (← (Datum.ofJson value).written)

def emptyValue : ScalarKind → Json
  | .bool => .bool false
  | .int => .int 0
  | .real => .real .zero
  | .text => .string ""

def definedKind (key : String) : Json → Except Fault ScalarKind
  | .string "bool" => .ok .bool
  | .string "int" => .ok .int
  | .string "float" => .ok .real
  | .string "string" => .ok .text
  | .array items => .error (.unhashable (Json.array items).typeName)
  | .object fields => .error (.unhashable (Json.object fields).typeName)
  | other => .error (.unsupportedDefinition key other)

def required (key : String) (definition : Json) (field : String) : Except Fault Json :=
  match definition.field? field with
  | some value => .ok value
  | none => .error (.missingDefinitionField key field)

/-- A limit of the defined range, if there is one. -/
def definedLimit (kind : ScalarKind) (range : Json) (field : String) : Except Fault Datum :=
  match range.field? field with
  | none => .ok .null
  | some .null => .ok .null
  | some value => return .ofScalar (← coerce kind value)

def definedRange (definition : Json) : Except Fault Json :=
  match definition.field? "range_options" with
  | none => .ok (.object [])
  | some (.object fields) => .ok (.object fields)
  | some other => .error (.noAttribute other.typeName "get")

def ofDefinition (key : String) (definition : Json) : Except Fault ConfigEntry := do
  let type ← required key definition "type"
  let label ← required key definition "label"
  let category ← required key definition "category"
  let description ← required key definition "description"
  let kind ← definedKind key type
  let default ← coerce kind ((definition.field? "default").getD (emptyValue kind))
  let range ← definedRange definition
  let minimum ← definedLimit kind range "min"
  let maximum ← definedLimit kind range "max"
  let saved := ((definition.field? "saved").map fun value => (Datum.ofJson value).truth).getD false
  let parameter ←
    Parameter.make (.ofJson label) (.ofScalar default) (.ofJson description) minimum maximum
  return { key, parameter, category := .ofJson category, saved, value := default }

/-- Replaces the value and tells whether it changed. -/
def set (value : Datum) (entry : ConfigEntry) : Except Fault (ConfigEntry × Bool) := do
  let _ ← entry.parameter.validate value true
  let scalar ← Parameter.expectScalar value
  return ({ entry with value := scalar }, !entry.value.same scalar)

def restoreDefault (entry : ConfigEntry) : ConfigEntry :=
  { entry with value := entry.parameter.default }

/-- A saved value as the kind of setting reads it: files do not tell whole numbers apart. -/
def savedValue (entry : ConfigEntry) (value : Json) : Except Fault Datum :=
  match entry.parameter.kind, value with
  | .real, .int number => do
      match Binary64.ofInt? number with
      | some number => return .real number
      | none => throw .intTooLarge
  | _, value => .ok (.ofJson value)

/-- Takes a saved value over. One that is not valid is passed over and given back. -/
def load (value : Json) (entry : ConfigEntry) : Except Fault (ConfigEntry × Option Datum) := do
  let value ← entry.savedValue value
  if ← entry.parameter.validate value false then
    let scalar ← Parameter.expectScalar value
    return ({ entry with value := scalar }, none)
  else return (entry, some value)

end ConfigEntry

end ScriptCatalog
