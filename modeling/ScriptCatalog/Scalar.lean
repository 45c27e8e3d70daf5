import ScriptCatalog.Number.Binary64

/-! The plain values of settings and procedure parameters. -/

namespace ScriptCatalog

inductive ScalarKind where
  | bool
  | int
  | real
  | text
  deriving DecidableEq

namespace ScalarKind

def name : ScalarKind → String
  | bool => "bool"
  | int => "int"
  | real => "float"
  | text => "str"

def isNumeric : ScalarKind → Bool
  | int | real => true
  | bool | text => false

end ScalarKind

inductive Scalar where
  | bool (value : Bool)
  | int (value : Int)
  | real (value : Binary64)
  | text (value : String)
  deriving DecidableEq

namespace Scalar

def kind : Scalar → ScalarKind
  | bool _ => .bool
  | int _ => .int
  | real _ => .real
  | text _ => .text

/-- Whether two values of one kind compare equal. What is not a number differs from itself. -/
def same : Scalar → Scalar → Bool
  | bool left, bool right => left == right
  | int left, int right => left == right
  | real left, real right => left.same right
  | text left, text right => left == right
  | _, _ => false

def less : Scalar → Scalar → Bool
  | int left, int right => left < right
  | real left, real right => left.less right
  | _, _ => false

end Scalar

end ScriptCatalog
