import ScriptCatalog.Script.Basic

/-! Procedures that hosts call scripts by: what a script says about itself, and one parameter for
the run mode and for each argument. -/

namespace ScriptCatalog

variable [Platform]

/-- How long an installed procedure lives. -/
inductive ProcedureKind where
  | temporary
  | plugin
  deriving DecidableEq

namespace ProcedureKind

def name : ProcedureKind → String
  | temporary => "temporary"
  | plugin => "plugin"

def all : List ProcedureKind := [temporary, plugin]

def ofDatum (value : Datum) : Except Fault ProcedureKind :=
  match all.find? fun kind => value.equalsText kind.name with
  | some kind => .ok kind
  | none => .error (.unknownProcedureKind value)

end ProcedureKind

/-- The types of values that hosts tell apart. -/
inductive HostType where
  | runMode
  | image
  | drawable
  | layer
  | channel
  | vectors
  | display
  | rgb
  | boolean
  | string
  | double
  | int
  deriving DecidableEq

namespace HostType

def name : HostType → String
  | runMode => "run-mode"
  | image => "image"
  | drawable => "drawable"
  | layer => "layer"
  | channel => "channel"
  | vectors => "vectors"
  | display => "display"
  | rgb => "rgb"
  | boolean => "boolean"
  | string => "string"
  | double => "double"
  | int => "int"

end HostType

structure ProcedureParameter where
  name : String
  nick : String
  blurb : Datum
  type : HostType
  default : Option Scalar
  minimum : Option Scalar
  maximum : Option Scalar
  noneAllowed : Bool
  unchecked : Bool

structure Procedure where
  name : Datum
  kind : ProcedureKind
  imageTypes : Datum
  menuLabel : Option Label
  blurb : Datum
  help : Option String
  helpId : Datum
  author : Datum
  copyright : Datum
  date : Datum
  parameters : List ProcedureParameter

namespace Procedure

def parameterNames (procedure : Procedure) : List String := procedure.parameters.map (·.name)

def parameter (procedure : Procedure) (name : Datum) : Except Fault ProcedureParameter :=
  match procedure.parameters.find? fun parameter => name.equalsText parameter.name with
  | some parameter => .ok parameter
  | none => .error (.noParameterNamed procedure.name name)

end Procedure

end ScriptCatalog
