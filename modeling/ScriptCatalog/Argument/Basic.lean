import ScriptCatalog.Act
import ScriptCatalog.Argument.Default

/-! A declared argument: its type, its label, its default and its current value. -/

namespace ScriptCatalog

structure Argument where
  kind : ArgKind
  label : Datum
  default : Payload
  value : Payload

variable [Platform]

namespace ArgKind

def ofDatum (value : Datum) : Except Fault ArgKind :=
  match all.find? fun kind => value.equalsText kind.token with
  | some kind => .ok kind
  | none => .error (.unknownArgKind value)

end ArgKind

namespace Argument

/-- The payload that a value is. Fails for one of another form than the argument type has. -/
def expectPayload (label : Datum) (kind : ArgKind) : Datum → Except Fault Payload
  | .payload held =>
      if held.kind = kind.payloadKind then .ok held
      else .error (.payloadMismatch label kind (.payload held.kind))
  | other => .error (.payloadMismatch label kind other.typeName)

/-- A new argument, whose value is a copy of its default. -/
def make (types : EnumTypes) (kind : ArgKind) (label default : Datum) :
    Except Fault Argument := do
  let default ← expectPayload label kind default
  return { kind, label, default, value := ← default.copy types }

def assign (value : Datum) (argument : Argument) : Except Fault Argument := do
  return { argument with value := ← expectPayload argument.label argument.kind value }

def setFromParam (types : EnumTypes) (param : Datum) (argument : Argument) :
    Except Fault Argument := do
  return { argument with value := ← argument.value.updated types param }

/-- Restores the default. Items are only restored if `resetIds` holds. The old value is released
before the default is copied, and stays released should the copy fail. -/
def reset (types : EnumTypes) (resetIds : Bool) : Act Argument Unit := fun argument =>
  if argument.kind.isItem && !resetIds then .ok () argument
  else match argument.default.copy types with
    | .ok value => .ok () { argument with value }
    | .error fault => .error fault { argument with value := argument.value.release }

/-- Drops the label and whatever the default and the value own. -/
def release (argument : Argument) : Argument :=
  { argument with
    label := .text "", default := argument.default.release, value := argument.value.release }

end Argument

end ScriptCatalog
