import ScriptCatalog.Check

/-! A named kind of value with a default and, for numbers, a range. -/

namespace ScriptCatalog

variable [Platform]

structure Parameter where
  name : Datum
  default : Scalar
  description : Datum
  minimum : Option Scalar
  maximum : Option Scalar

namespace Parameter

/-- The plain value that a value is. Truth values are never numbers. -/
def expectScalar (value : Datum) : Except Fault Scalar :=
  match value.scalar? with
  | some scalar => .ok scalar
  | none => .error (.unsupportedValue value)

def kind (parameter : Parameter) : ScalarKind := parameter.default.kind

/-- Whether a number lies below the minimum or above the maximum. -/
def outside (parameter : Parameter) (value : Scalar) : Bool :=
  parameter.minimum.any (value.less ·) || parameter.maximum.any (·.less value)

/-- Whether a value has the parameter's kind and lies within its range. If `strict` holds, one
that does not is a fault. One that is not plain is written out in any case. -/
def validate (parameter : Parameter) (value : Datum) (strict : Bool) : Except Fault Bool :=
  match value.scalar? with
  | some scalar =>
      if scalar.kind ≠ parameter.kind then
        if strict then .error (.wrongKind parameter.name parameter.kind value) else .ok false
      else if parameter.outside scalar then
        if strict then
          .error (.outsideRange parameter.name scalar parameter.minimum parameter.maximum)
        else .ok false
      else .ok true
  | none =>
      match value.unshown? with
      | some obstacle => .error obstacle.fault
      | none =>
          if strict then .error (.wrongKind parameter.name parameter.kind value) else .ok false

/-- The limit that a value sets, if it sets one, for values of a kind. -/
def limit (name : Datum) (kind : ScalarKind) : Datum → Except Fault (Option Scalar)
  | .null => .ok none
  | value => do
      let limit ← expectScalar value
      if limit.kind ≠ kind then throw (.limitMismatch name limit kind)
      return some limit

/-- A parameter, whose name must not be empty. -/
def make (name default description minimum maximum : Datum) : Except Fault Parameter := do
  if (← name.size) = 0 then throw .emptyName
  let default ← expectScalar default
  if !(minimum.isNull && maximum.isNull) && !default.kind.isNumeric then
    throw (.rangeNotAllowed name default.kind)
  let lower ← limit name default.kind minimum
  let upper ← limit name default.kind maximum
  match lower, upper with
  | some lower, some upper => if upper.less lower then throw (.limitsCrossed name lower upper)
  | _, _ => pure ()
  let parameter : Parameter := { name, default, description, minimum := lower, maximum := upper }
  let _ ← parameter.validate (.ofScalar default) true
  return parameter

end Parameter

end ScriptCatalog
