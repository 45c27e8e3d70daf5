import ScriptCatalog.Tool.Options
import ScriptCatalog.Workspace

/-! The script tool: it lists the scripts of a file, describes the procedure of one, prints the
command that runs one with its defaults, and shows the settings. -/

namespace ScriptCatalog

variable [Platform]

namespace Tool

def print (text : String) : Act Workspace Unit :=
  Workspace.onJournal (modify (· ++ [.printed (text ++ "\n")]))

def complain (text : String) : Act Workspace Unit :=
  Workspace.onJournal (modify (· ++ [.complained (text ++ "\n")]))

def describeParameter (parameter : ProcedureParameter) : String :=
  s!"    {parameter.name} ({parameter.type.name}): {parameter.nick}, {parameter.blurb.display}"

def describe (procedure : Procedure) : String :=
  "\n".intercalate ([
    procedure.name.display,
    "  menu: " ++ (procedure.menuLabel.map Datum.display).getD "(none)",
    "  image types: " ++ procedure.imageTypes.display,
    "  " ++ procedure.blurb.display,
    s!"  by {procedure.author.display}, {procedure.copyright.display}, {procedure.date.display}",
    "  parameters:"] ++ procedure.parameters.map describeParameter)

/-- Adds a setting to those of its category, which come in the order of their first settings. -/
def groupEntry (groups : List (String × List ConfigEntry)) (entry : ConfigEntry) :
    List (String × List ConfigEntry) :=
  let category := entry.category.display
  putField category (((groups.lookup category).getD []) ++ [entry]) groups

def settingLines (entry : ConfigEntry) : List String := [
  s!"  {entry.key} = {entry.value.display}",
  s!"    {entry.parameter.name.display}: {entry.parameter.description.display}"]

def settings (config : Config) : String :=
  "\n".intercalate ((config.entries.foldl groupEntry []).flatMap fun (category, entries) =>
    (category ++ ":") :: entries.flatMap settingLines)

/-- Registers the scripts of a file and adds them to a table. -/
def loadInto (table : Nat) (path : String) : Act Workspace Unit := do
  (← Workspace.loadScripts path).forM fun id => Workspace.addToTable table (some id)

/-- Whether the tool reports a fault and ends, rather than breaks off. -/
def isReported (fault : Fault) : Bool :=
  fault.kind.isFileTrouble || fault.kind.isFailure || fault.kind = .badValue

/-- Runs an action; a fault that is to be reported is reported. -/
def reporting (path : String) (act : Act Workspace Unit) : Act Workspace Bool := fun space =>
  match act space with
  | .ok _ next => .ok true next
  | .error fault next =>
      if isReported fault.raised then
        (do
          Workspace.onJournal (modify (Journal.log .error .tool
            s!"Loading {path} failed: {fault.raised.message}"))
          complain fault.raised.message
          return false : Act Workspace Bool) next
      else .error fault next

def scriptNamed (table : Nat) (name : Datum) : Act Workspace ScriptId := do
  let inUse ← Workspace.find (← get).tables table
  Workspace.expect (← Act.ofExcept (inUse.table.find? name))

def listScript (table : Nat) (name : Datum) : Act Workspace Unit := do
  let title ← Workspace.onScript (← scriptNamed table name) Script.title
  print s!"{name.display}: {title}"

def describeScript (registry : Nat) (name : Datum) : Act Workspace Unit := do
  let registry ← Workspace.find (← get).registries registry
  print (describe (← Workspace.expect (← Act.ofExcept (registry.find? name))))

def commandScript (table : Nat) (precision : Precision) (name : Datum) : Act Workspace Unit := do
  print (← Workspace.onScript (← scriptNamed table name) (Script.command precision))

def missingName (table : ScriptTable) : List Datum → Except Fault (Option Datum)
  | [] => .ok none
  | name :: rest => do
      if ← table.contains name then missingName table rest else return some name

def present (options : ToolOptions) (config : Config) (registry table : Nat) :
    Act Workspace Nat := do
  let held := (← Workspace.find (← get).tables table).table
  if options.list then (← Act.ofExcept held.names).forM (listScript table)
  let asked := options.describe.toList ++ options.command.toList
  match ← Act.ofExcept (missingName held asked) with
  | some name =>
      complain s!"No script named \"{name.display}\""
      return 1
  | none =>
      match options.describe with
      | some name => describeScript registry name
      | none => pure ()
      match options.command with
      | some name =>
          let precision ← match options.precision with
            | some precision => pure precision
            | none => Act.ofExcept config.getPrecision
          commandScript table precision name
      | none => pure ()
      Workspace.onTable table Catalog.clear
      return 0

def settingsPath (options : ToolOptions) (files : Files) : Datum :=
  options.config.getD (.text files.standardPath)

def run (options : ToolOptions) : Act Workspace Nat := do
  let path := settingsPath options (← get).files
  let config ← Workspace.config (← Workspace.sharedConfig path)
  if options.settings then print (settings config)
  match options.scriptFile with
  | none =>
      if options.list || options.describe.isSome || options.command.isSome then
        complain "A script file is required with --list, --describe and --command"
        return 1
      else return 0
  | some path =>
      let registry ← Workspace.addRegistry
      let table ← Workspace.addTable (some registry) .temporary
      if ← reporting path (loadInto table path) then present options config registry table
      else return 1

def recordLine (record : LogRecord) : String :=
  s!"#{record.level.name}: {record.channel.name}:  {record.text}\n"

/-- What the tool writes to its output, log records among it if the user wants to see them. -/
def output (verbose : Bool) (journal : Journal) : String :=
  String.join (journal.map fun
    | .printed text => text
    | .record record => if verbose then recordLine record else ""
    | _ => "")

def complaints (journal : Journal) : String :=
  String.join (journal.map fun
    | .complained text => text
    | _ => "")

/-- What came of calling the tool: an exit code or a fault, what it wrote, and the files. -/
structure Report where
  outcome : Except Fault Nat
  output : String
  complaints : String
  files : Files

def call (files : Files) (words : List String) : Report :=
  match ToolOptions.ofWords words with
  | .error .help => { outcome := .ok 0, output := "", complaints := "", files }
  | .error .misuse => { outcome := .ok 2, output := "", complaints := "", files }
  | .ok options =>
      let report (outcome : Except Fault Nat) (space : Workspace) : Report :=
        { outcome, output := output options.verbose space.journal
          complaints := complaints space.journal, files := space.files }
      match run options { Workspace.empty with files } with
      | .ok code space => report (.ok code) space
      | .error fault space => report (.error fault) space

end Tool

end ScriptCatalog
