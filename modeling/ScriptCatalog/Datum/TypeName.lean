import ScriptCatalog.Argument.Kind
import ScriptCatalog.Host

/-! The types of values, with the names that messages give them. -/

namespace ScriptCatalog

inductive TypeName where
  | null
  | bool
  | int
  | real
  | text
  | list
  | tuple
  | record
  | object (kind : HostKind)
  | color
  | payload (kind : PayloadKind)
  deriving DecidableEq

namespace TypeName

def name : TypeName → String
  | null => "NoneType"
  | bool => "bool"
  | int => "int"
  | real => "float"
  | text => "str"
  | list => "list"
  | tuple => "tuple"
  | record => "dict"
  | object kind => kind.name
  | color => "QColor"
  | payload kind => kind.name

/-- The name by which a failing operation calls the type of what it was given. -/
def operandName : TypeName → String
  | color => "PySide6.QtGui.QColor"
  | type => type.name

/-- The name with the place where the type is defined. -/
def qualifiedName : TypeName → String
  | object kind => "scriptfu.procedure.host_types." ++ kind.name
  | payload kind => "scriptfu.script.arg_value." ++ kind.name
  | type => type.operandName

def display (type : TypeName) : String := s!"<class '{type.qualifiedName}'>"

/-- One type is shown by itself, several as a group. -/
def displayAll : List TypeName → String
  | [only] => only.display
  | types => "(" ++ ", ".intercalate (types.map display) ++ ")"

/-- Whether values of a type belong to another type too. -/
def isA : TypeName → TypeName → Bool
  | bool, int => true
  | object kind, object other => kind.isA other
  | type, other => type == other

end TypeName

end ScriptCatalog
