import ScriptCatalog.Platform
import ScriptCatalog.Datum.TypeName
import ScriptCatalog.Scalar

/-! Values of any type, as scripts declare them and hosts pass them in, and the payloads that
arguments hold. The fields of a payload are values of any type too, since whoever makes a payload
decides what they are; only a selection is checked when it is made. -/

namespace ScriptCatalog

mutual

inductive Datum where
  | null
  | bool (value : Bool)
  | int (value : Int)
  | real (value : Binary64)
  | text (value : String)
  | list (items : List Datum)
  | tuple (items : List Datum)
  | record (fields : List (String × Datum))
  | object (kind : HostKind) (id : Datum)
  | color (shade : Color)
  | payload (held : Payload)

/-- What an argument holds, in a form that depends on the type of the argument. -/
inductive Payload where
  | itemId (id : Datum)
  | color (shade : Datum)
  | toggle (active : Datum)
  | rawText (words : Datum)
  | text (words : Datum)
  | adjustment (value lower upper step page digits slider : Datum)
  | file (filename : Datum)
  | resource (name : Datum)
  | brush (name opacity spacing paintMode : Datum)
  | option (labels : List Datum) (selected : Nat)
  | enum (typeName : Datum) (selected : Nat)

end

instance : Inhabited Datum := ⟨.null⟩

namespace Payload

def kind : Payload → PayloadKind
  | itemId _ => .itemId
  | color _ => .color
  | toggle _ => .toggle
  | rawText _ => .rawText
  | text _ => .text
  | adjustment .. => .adjustment
  | file _ => .file
  | resource _ => .resource
  | brush .. => .brush
  | option .. => .option
  | enum .. => .enum

/-- Drops the text and lists that a payload owns. -/
def release : Payload → Payload
  | rawText _ => rawText .null
  | text _ => text .null
  | file _ => file .null
  | resource _ => resource .null
  | brush _ opacity spacing paintMode => brush .null opacity spacing paintMode
  | option _ selected => option [] selected
  | payload => payload

theorem kind_release (payload : Payload) : payload.release.kind = payload.kind := by
  cases payload <;> rfl

end Payload

namespace Datum

def typeName : Datum → TypeName
  | null => .null
  | bool _ => .bool
  | int _ => .int
  | real _ => .real
  | text _ => .text
  | list _ => .list
  | tuple _ => .tuple
  | record _ => .record
  | object kind _ => .object kind
  | color _ => .color
  | payload held => .payload held.kind

mutual

def ofJson : Json → Datum
  | .null => null
  | .bool value => bool value
  | .int value => int value
  | .real value => real value
  | .string value => text value
  | .array items => list (ofJsonItems items)
  | .object fields => record (ofJsonFields fields)

def ofJsonItems : List Json → List Datum
  | [] => []
  | item :: rest => ofJson item :: ofJsonItems rest

def ofJsonFields : List (String × Json) → List (String × Datum)
  | [] => []
  | (key, value) :: rest => (key, ofJson value) :: ofJsonFields rest

end

def ofScalar : Scalar → Datum
  | .bool value => bool value
  | .int value => int value
  | .real value => real value
  | .text value => text value

def scalar? : Datum → Option Scalar
  | bool value => some (.bool value)
  | int value => some (.int value)
  | real value => some (.real value)
  | text value => some (.text value)
  | _ => none

theorem scalar?_ofScalar (value : Scalar) : (ofScalar value).scalar? = some value := by
  cases value <;> rfl

def isNull : Datum → Bool
  | null => true
  | _ => false

/-- Whether a value counts as true: neither nothing, nor zero, nor empty. -/
def truth : Datum → Bool
  | null => false
  | bool value => value
  | int value => value != 0
  | real value => !value.same .zero
  | text value => !value.isEmpty
  | list items => !items.isEmpty
  | tuple items => !items.isEmpty
  | record fields => !fields.isEmpty
  | object .. | color _ | payload _ => true

/-- The items that going through a value gives; a text gives its characters and a record its
keys. -/
def items? : Datum → Option (List Datum)
  | list items => some items
  | tuple items => some items
  | text value => some (value.toList.map fun c => text (String.singleton c))
  | record fields => some (fields.map fun (key, _) => text key)
  | _ => none

def sequence? : Datum → Option (List Datum)
  | list items => some items
  | tuple items => some items
  | _ => none

end Datum

end ScriptCatalog
