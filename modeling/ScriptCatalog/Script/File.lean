import ScriptCatalog.Files
import ScriptCatalog.Script.Registration

/-! Script files: JSON lists of registrations, each an object with a name, perhaps texts and
perhaps a list of declarations. -/

namespace ScriptCatalog

variable [Platform]

namespace Registration

/-- A declaration of a file, whatever it is written as, is the tuple of its items. -/
def fileDeclarations (args : Json) : Except Fault (List Datum) := do
  (← (Datum.ofJson args).items).mapM fun declaration => return .tuple (← declaration.items)

/-- The registration that an object of a file stands for. -/
def ofFileEntry (path : String) (index : Nat) (entry : Json) : Except Fault Registration := do
  let text (field : String) : Datum := ((entry.field? field).map Datum.ofJson).getD (.text "")
  match entry.field? "name" with
  | none => throw (.scriptFileField path index "name")
  | some name =>
      let declarations ← fileDeclarations ((entry.field? "args").getD (.array []))
      return {
        name := .ofJson name, menuLabel := text "menu_label", blurb := text "blurb"
        author := text "author", copyright := text "copyright", date := text "date"
        imageTypes := text "image_types", declarations := .list declarations }

/-- Registers the entries of a file, the first of which has the given index. -/
def registerEntries (types : EnumTypes) (path : String) :
    Nat → List Json → Act Journal (List Script)
  | _, [] => return []
  | index, .object fields :: rest => do
      let registration ← Act.ofExcept (ofFileEntry path index (.object fields))
      let script ← registration.register types
      return script :: (← registerEntries types path (index + 1) rest)
  | index, _ :: _ => throw (.scriptFileEntry path index)

def readEntries (files : Files) (path : String) : Except Fault (List Json) := do
  match Json.read (← files.read path) with
  | .error (.malformed fault) => throw (.scriptFileSyntax path fault)
  | .error (.beyond limit) => throw (.beyondReader limit)
  | .ok (.array entries) => return entries
  | .ok _ => throw (.scriptFileNotList path)

/-- Reads a script file and registers every script in it. -/
def loadFile (types : EnumTypes) (files : Files) (path : String) : Act Journal (List Script) := do
  let entries ← Act.ofExcept (readEntries files path)
  let scripts ← registerEntries types path 0 entries
  modify (Journal.log .info .scriptFile s!"Loaded {scripts.length} scripts from {path}")
  return scripts

end Registration

end ScriptCatalog
