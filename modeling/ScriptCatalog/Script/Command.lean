import ScriptCatalog.Script.Basic

/-! Commands that call a script: its name and one token for each argument, from the values it
holds or from those of an invocation. An invocation is a list of a run mode and one value for each
argument. Whatever else is passed in its place fails where its size or an item is asked for. -/

namespace ScriptCatalog

variable [Platform]

abbrev Invocation := Datum

namespace Invocation

/-- The values after the run mode. They are only looked at where there are arguments for them. -/
def params (arguments : List Argument) (invocation : Invocation) : Except Fault (List Datum) :=
  if arguments.isEmpty then .ok [] else return (← invocation.itemsByPosition 1).tail

end Invocation

/-- The command of a name and tokens, all of which must be texts. -/
def formatCommand (name : Datum) (tokens : List Datum) : Except Fault String := do
  return "(" ++ " ".intercalate (← Datum.expectTexts 0 (name :: tokens)) ++ ")"

def storedTokens (precision : Precision) (arguments : List Argument) :
    Except Fault (List Datum) :=
  arguments.mapM fun argument => argument.value.token precision

/-- The tokens of values passed in, one for each argument. -/
def passedTokens (types : EnumTypes) (precision : Precision) :
    List Argument → List Datum → Except Fault (List Datum)
  | argument :: arguments, param :: params => do
      let token ← argument.value.paramToken types precision param
      return token :: (← passedTokens types precision arguments params)
  | _, _ => .ok []

namespace Script

/-- The command that calls the script with the values it holds. -/
def command (precision : Precision) : ScriptAct String :=
  exclusively do
    let arguments ← arguments
    let tokens ← Act.ofExcept (storedTokens precision arguments)
    Act.ofExcept (formatCommand (← name) tokens)

/-- The command that calls the script with the values of an invocation. The values it holds are
neither used nor changed. -/
def passedCommand (types : EnumTypes) (precision : Precision) (invocation : Invocation) :
    ScriptAct String := do
  Act.require (!invocation.isNull) .absentObject
  exclusively do
    let arguments ← arguments
    let size ← Act.ofExcept invocation.size
    if size < arguments.length + 1 then
      throw (.tooFewValues (← name) (arguments.length + 1) size)
    let params ← Act.ofExcept (Invocation.params arguments invocation)
    let tokens ← Act.ofExcept (passedTokens types precision arguments params)
    Act.ofExcept (formatCommand (← name) tokens)

def storeParams (types : EnumTypes) (invocation : Invocation) : ScriptAct Unit :=
  exclusively do
    let _ ← arguments
    forArguments fun index => do
      let param ← Act.ofExcept (invocation.itemAt (index + 1))
      set (← Act.ofExcept ((← get).setFromParam types param))

end Script

end ScriptCatalog
