import ScriptCatalog.Datum.Basic
import ScriptCatalog.Number.Shortest
import ScriptCatalog.Text.Literal

/-! The text that messages show for a value, and which values the platform can write out. -/

namespace ScriptCatalog

namespace Color

/-- A part as a fraction of the largest one, to six places. The fraction itself is a number of 24
binary digits, the last of them rounded. -/
def fraction (part : Nat) : String :=
  let places := 63 - (part * Nat.pow 2 40 / mostPart).log2
  let size := roundHalfEven (part * Nat.pow 2 places) mostPart
  String.ofList (Binary64.placedDigits 6 (roundHalfEven (size * Nat.pow 10 6) (Nat.pow 2 places)))

def display (color : Color) : String :=
  if color.isValid then
    "PySide6.QtGui.QColor.fromRgbF(" ++ ", ".intercalate
      ([color.red, color.green, color.blue, color.alpha].map fun part => fraction part.toNat) ++ ")"
  else "PySide6.QtGui.QColor()"

end Color

def displayBool (value : Bool) : String := if value then "True" else "False"

def displayFields (kind : PayloadKind) (fields : List (String × String)) : String :=
  let shown := fields.map fun (name, value) => name ++ "=" ++ value
  kind.name ++ "(" ++ ", ".intercalate shown ++ ")"

def displayList (items : List String) : String := "[" ++ ", ".intercalate items ++ "]"

namespace Datum

mutual

/-- The text of a value inside another one, where texts are shown as literals. -/
def inner : Datum → String
  | null => "None"
  | bool value => displayBool value
  | int value => toString value
  | real value => value.display
  | text value => literal value
  | list items => displayList (innerItems items)
  | tuple items =>
      match innerItems items with
      | [only] => "(" ++ only ++ ",)"
      | shown => "(" ++ ", ".intercalate shown ++ ")"
  | record fields => "\x7b" ++ ", ".intercalate (innerFields fields) ++ "\x7d"
  | object kind id => kind.name ++ "(id=" ++ inner id ++ ")"
  | color shade => shade.display
  | payload held => innerPayload held

def innerItems : List Datum → List String
  | [] => []
  | item :: rest => inner item :: innerItems rest

def innerFields : List (String × Datum) → List String
  | [] => []
  | (key, value) :: rest => (literal key ++ ": " ++ inner value) :: innerFields rest

def innerPayload : Payload → String
  | .itemId id => displayFields .itemId [("item_id", inner id)]
  | .color shade => displayFields .color [("color", inner shade)]
  | .toggle active => displayFields .toggle [("active", inner active)]
  | .rawText words => displayFields .rawText [("text", inner words)]
  | .text words => displayFields .text [("text", inner words)]
  | .adjustment value lower upper step page digits slider =>
      displayFields .adjustment [
        ("value", inner value), ("lower", inner lower), ("upper", inner upper),
        ("step", inner step), ("page", inner page), ("digits", inner digits),
        ("slider", inner slider)]
  | .file filename => displayFields .file [("filename", inner filename)]
  | .resource name => displayFields .resource [("name", inner name)]
  | .brush name opacity spacing paintMode =>
      displayFields .brush [
        ("name", inner name), ("opacity", inner opacity), ("spacing", inner spacing),
        ("paint_mode", inner paintMode)]
  | .option labels selected =>
      displayFields .option [
        ("options", displayList (innerItems labels)), ("history", toString selected)]
  | .enum typeName selected =>
      displayFields .enum [("type_name", inner typeName), ("history", toString selected)]

end

/-- The text of a value in a message. A text stands for itself. -/
def display : Datum → String
  | text value => value
  | datum => datum.inner

end Datum

/-- Why a value cannot be written out: an integer in it has too many digits, or its parts are inside
each other too deeply. -/
inductive Obstacle where
  | tooLong
  | tooDeep
  deriving DecidableEq

namespace Datum

variable [Platform]

mutual

/-- The first obstacle to writing a value out where there is room for so many values inside each
other. -/
def obstacle? (room : Nat) : Datum → Option Obstacle
  | int value => if isShort value then none else some .tooLong
  | list items | tuple items =>
      match room with
      | 0 => some .tooDeep
      | room + 1 => itemsObstacle? room items
  | record fields =>
      match room with
      | 0 => some .tooDeep
      | room + 1 => fieldsObstacle? room fields
  | object _ id =>
      match room with
      | 0 => some .tooDeep
      | room + 1 => obstacle? room id
  | payload held =>
      match room with
      | 0 => some .tooDeep
      | room + 1 => payloadObstacle? room held
  | null | bool _ | real _ | text _ | color _ => none

def itemsObstacle? (room : Nat) : List Datum → Option Obstacle
  | [] => none
  | item :: rest => obstacle? room item <|> itemsObstacle? room rest

def fieldsObstacle? (room : Nat) : List (String × Datum) → Option Obstacle
  | [] => none
  | (_, value) :: rest => obstacle? room value <|> fieldsObstacle? room rest

def payloadObstacle? (room : Nat) : Payload → Option Obstacle
  | .itemId part | .color part | .toggle part | .rawText part | .text part | .file part
  | .resource part | .enum part _ => obstacle? room part
  | .adjustment value lower upper step page digits slider =>
      obstacle? room value <|> obstacle? room lower <|> obstacle? room upper <|>
        obstacle? room step <|> obstacle? room page <|> obstacle? room digits <|>
          obstacle? room slider
  | .brush name opacity spacing paintMode =>
      obstacle? room name <|> obstacle? room opacity <|> obstacle? room spacing <|>
        obstacle? room paintMode
  | .option labels _ =>
      match room with
      | 0 => some .tooDeep
      | room + 1 => itemsObstacle? room labels

end

/-- What keeps the platform from writing a value out, if anything does. -/
def unshown? (value : Datum) : Option Obstacle := value.obstacle? Platform.showing

theorem unshown?_int (value : Int) :
    (int value).unshown? = if isShort value then none else some .tooLong := rfl

theorem unshown?_text (words : String) : (text words).unshown? = none := rfl

end Datum

def Payload.display (payload : Payload) : String := Datum.innerPayload payload

def Scalar.display (value : Scalar) : String := (Datum.ofScalar value).display

def Json.display (value : Json) : String := (Datum.ofJson value).display

end ScriptCatalog
