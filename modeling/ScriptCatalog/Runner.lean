import ScriptCatalog.Config.Shipped
import ScriptCatalog.History
import ScriptCatalog.Script.Binding

/-! Running scripts. An interactive run binds the leading values of the invocation and lets a
dialog edit the others; a run without interaction takes every value from the invocation and then
stores them; a run with the last values binds the leading ones and keeps the others. Whatever
command comes of it is recorded, and then evaluated by the interpreter. -/

namespace ScriptCatalog

variable [Platform]

abbrev Interpreter := Datum → Except Fault String

/-- Lets the user edit the arguments after those that are bound, and tells whether the user went
on with the run. -/
abbrev ArgumentDialog := EnumTypes → Nat → ScriptAct Bool

/-- A script being run, with the history of the runner. -/
structure RunDesk where
  script : Script
  record : HistoryDesk

namespace RunMode

/-- The mode that a value stands for: any value that equals its number. -/
def ofDatum (value : Datum) : Except Fault RunMode :=
  match all.find? fun mode => value.equalsNat mode.number with
  | some mode => .ok mode
  | none => .error (.unknownRunMode value)

end RunMode

namespace HistoryDesk

def log (level : Level) (text : String) : Act HistoryDesk Unit :=
  modify fun desk => { desk with journal := desk.journal.log level .runner text }

/-- Records a command and evaluates it. A failure of the interpreter is logged and passed on. -/
def execute (interpret : Interpreter) (config : Config) (command : Datum) :
    Act HistoryDesk String := do
  if ← Act.ofExcept (config.getTruth Config.logCommandsKey) then
    log .info s!"Running command: {command.display}"
  add command
  emit (.interpreted command)
  match interpret command with
  | .ok result => return result
  | .error fault =>
      log .error s!"Command {command.display} failed: {fault.message}"
      throw fault

def executeLast (interpret : Interpreter) (config : Config) : Act HistoryDesk String := do
  match (← get).history.last?.getD .null with
  | .null => throw .nothingToRepeat
  | command => execute interpret config command

end HistoryDesk

namespace RunDesk

def onScript {α : Type} (act : ScriptAct α) : Act RunDesk α :=
  act.on (·.script) fun script desk => { desk with script }

def onRecord {α : Type} (act : Act HistoryDesk α) : Act RunDesk α :=
  act.on (·.record) fun record desk => { desk with record }

/-- Opens the dialog, if there is one and any argument is left to edit. -/
def consult (dialog : Option ArgumentDialog) (types : EnumTypes) (bound : Nat) :
    Act RunDesk Bool := do
  let size := (← get).script.size
  match dialog with
  | some dialog =>
      if bound < size then
        let name ← onScript Script.name
        onRecord (HistoryDesk.emit (.dialogOpened name bound))
        onScript (dialog types bound)
      else return true
  | none => return true

/-- The command of a run, unless the user cancelled it. -/
def runCommand (dialog : Option ArgumentDialog) (types : EnumTypes) (precision : Precision)
    (invocation : Invocation) : RunMode → Act RunDesk (Option String)
  | .interactive => do
      let bound ← onScript (Script.bindStandard invocation)
      if ← consult dialog types bound then
        return some (← onScript (Script.command precision))
      else
        let name ← onScript Script.name
        onRecord (HistoryDesk.log .info s!"{name.display}: cancelled")
        return none
  | .noninteractive => do
      let size := (← get).script.size
      let found ← Act.ofExcept invocation.size
      if found ≠ size + 1 then
        throw (.wrongValueCount (← onScript Script.name) size (found - 1))
      let command ← onScript (Script.passedCommand types precision invocation)
      onScript (Script.storeParams types invocation)
      return some command
  | .withLastValues => do
      let _ ← onScript (Script.bindStandard invocation)
      return some (← onScript (Script.command precision))

/-- Runs the script. The result is that of the interpreter, or none if the user cancelled. -/
def run (interpret : Interpreter) (dialog : Option ArgumentDialog) (types : EnumTypes)
    (config : Config) (invocation : Invocation) : Act RunDesk (Option String) := do
  Act.require (!invocation.isNull) .missingRunMode
  Act.require ((← Act.ofExcept invocation.size) != 0) .missingRunMode
  let runMode ← Act.ofExcept (do RunMode.ofDatum (← invocation.itemAt 0))
  let precision ← Act.ofExcept config.getPrecision
  let _ ← onScript Script.name
  match ← runCommand dialog types precision invocation runMode with
  | none => return none
  | some command =>
      return some (← onRecord (HistoryDesk.execute interpret config (.text command)))

/-- Restores the defaults of the script, those of items only if the settings say so. -/
def resetScript (types : EnumTypes) (config : Config) : Act RunDesk Unit := do
  let resetIds ← Act.ofExcept (config.getTruth Config.resetIdsKey)
  onScript (Script.reset types resetIds)

end RunDesk

end ScriptCatalog
