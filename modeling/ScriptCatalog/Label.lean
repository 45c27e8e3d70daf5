import ScriptCatalog.Check
import ScriptCatalog.Text.Title

/-! Menu labels of scripts. A label is a text; a list counts as the text that its items make
together, each of them a unit of the label whatever its length. What stands for a label otherwise
fails where its units, or the place of a text in it, are asked for. -/

namespace ScriptCatalog

abbrev Label := Datum

namespace Label

/-- Items count as the characters that they equal. -/
def itemUnits : LabelUnits Datum :=
  { counts := fun c item => item.equalsText (String.singleton c), underscore := .text "_" }

def items : Label → Except Fault (List Datum)
  | .list items | .tuple items => .ok items
  | .record [] => .ok []
  | .record _ => .error (.noPosition 0)
  | other => .error (.notSized other.typeName)

/-- The characters of a label without its markers. Only what is kept of it needs to be text. -/
def unmarkedChars : Label → Except Fault (List Char)
  | .text words => .ok (stripMnemonicChars words.toList)
  | label => do
      let kept := itemUnits.strip (← items label)
      return (String.join (← Datum.expectTexts 0 kept)).toList

def withoutMnemonics (label : Label) : Except Fault String :=
  return String.ofList (← label.unmarkedChars)

def withoutEllipsis : Label → Except Fault String
  | .text words => .ok (stripEllipsis words)
  | other => .error (.noAttribute other.typeName "find")

def title (label : Label) : Except Fault String :=
  return String.ofList (plainTitleChars (← label.unmarkedChars))

/-- A label that starts with this puts a script into no menu. -/
def hiddenMark : List Char := "<None>".toList

/-- The label under which a script is added to menus, unless it is added to none. -/
def shown : Label → Except Fault (Option Label)
  | .text words =>
      .ok (if hiddenMark.isPrefixOf words.toList || words.isEmpty then none else some (.text words))
  | .list items => .ok (if items.isEmpty then none else some (.list items))
  | .tuple items => .ok (if items.isEmpty then none else some (.tuple items))
  | .record _ => .error .noRange
  | other => .error (.noPositions other.typeName)

end Label

end ScriptCatalog
