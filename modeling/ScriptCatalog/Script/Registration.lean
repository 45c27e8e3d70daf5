import ScriptCatalog.Journal
import ScriptCatalog.Script.Basic

/-! Registering scripts. A declaration is a type token, a label and a default; positions of
declarations are counted from one. -/

namespace ScriptCatalog

variable [Platform]

structure Registration where
  name : Datum
  menuLabel : Datum
  blurb : Datum
  author : Datum
  copyright : Datum
  date : Datum
  imageTypes : Datum
  declarations : Datum

namespace Registration

def scriptName : Datum → Except Fault String
  | .text name => if name.isEmpty then .error (.invalidScriptName (.text name)) else .ok name
  | value => .error (.invalidScriptName value)

def fieldText (script field : String) : Datum → Except Fault Datum
  | .text words => .ok (.text words)
  | value => .error (.fieldNotText script field value)

def profile (registration : Registration) (name : String) : Except Fault Profile := do
  let menuLabel ← fieldText name "menu label" registration.menuLabel
  let blurb ← fieldText name "blurb" registration.blurb
  let author ← fieldText name "author" registration.author
  let copyright ← fieldText name "copyright" registration.copyright
  let date ← fieldText name "date" registration.date
  let imageTypes ← fieldText name "image types" registration.imageTypes
  return { name := .text name, menuLabel, blurb, author, copyright, date, imageTypes }

/-- The declarations, of which there must be a count. -/
def listed (registration : Registration) : Except Fault (List Datum) :=
  match registration.declarations.items? with
  | some declarations => .ok declarations
  | none => .error (.notSized registration.declarations.typeName)

/-- The argument with a declared default. A wrong type or value is reported together with the
declaration; a number beyond the range of numbers is reported as it is. -/
def declaredArgument (types : EnumTypes) (script : String) (position : Nat) (kind : ArgKind)
    (label : String) (default : Datum) : Except Fault Argument :=
  let made : Except Fault Argument := do
    let payload ← Payload.ofDefault types kind default
    Argument.make types kind (.text label) (.payload payload)
  match made with
  | .ok argument => .ok argument
  | .error cause =>
      if cause.kind = .badType ∨ cause.kind = .badValue then
        .error (.invalidDefault script position kind label default cause)
      else .error cause

def argument (types : EnumTypes) (script : String) (position : Nat) (declaration : Datum) :
    Except Fault Argument :=
  match declaration.items? with
  | some [token, label, default] =>
      match ArgKind.ofDatum token with
      | .error _ => .error (.unknownDeclaredKind script position token)
      | .ok kind =>
          match label with
          | .text label => declaredArgument types script position kind label default
          | other => .error (.labelNotText script position other)
  | _ => .error (.notDeclaration script position)

/-- The arguments of declarations, the first of which has the given position. -/
def arguments (types : EnumTypes) (script : String) :
    Nat → List Datum → Except Fault (List Argument)
  | _, [] => .ok []
  | position, declaration :: rest => do
      let first ← argument types script position declaration
      return first :: (← arguments types script (position + 1) rest)

def script (types : EnumTypes) (registration : Registration) : Except Fault Script := do
  let name ← scriptName registration.name
  let profile ← registration.profile name
  let declarations ← registration.listed
  return Script.ofArguments profile (← arguments types name 1 declarations)

def register (types : EnumTypes) (registration : Registration) : Act Journal Script := do
  let name ← Act.ofExcept (scriptName registration.name)
  let script ← Act.ofExcept (registration.script types)
  modify (Journal.log .info .registration
    s!"Registered script {name} with {script.size} arguments")
  return script

end Registration

end ScriptCatalog
