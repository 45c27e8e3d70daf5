import ScriptCatalog.Catalog
import ScriptCatalog.Runner
import ScriptCatalog.Script.File

/-! Everything that is in use at a time: the enumerations, the scripts, and the registries,
tables, histories, settings and runners that share them, with the files they are kept in and the
journal of what they did. Each is told apart from others of its sort by a number. -/

namespace ScriptCatalog

variable [Platform]

structure TableInUse where
  table : ScriptTable
  registry : Option Nat

structure RunnerInUse where
  config : Nat
  history : Nat
  interpret : Interpreter
  dialog : Option ArgumentDialog

structure Workspace where
  types : EnumTypes
  scripts : List Script
  registries : List Registry
  tables : List TableInUse
  histories : List History
  configs : List Config
  runners : List RunnerInUse
  /-- The settings that are shared by whoever asks for none in particular. -/
  shared : Option Nat
  files : Files
  journal : Journal

namespace Workspace

def empty : Workspace :=
  { types := .standard, scripts := [], registries := [], tables := [], histories := [],
    configs := [], runners := [], shared := none
    files := .empty, journal := [] }

/-- What stands under a number, which must be there. -/
def find {α : Type} (items : List α) (number : Nat) : Act Workspace α :=
  match items[number]? with
  | some item => pure item
  | none => throw .absentObject

/-- The object that an optional reference refers to. -/
def expect {α : Type} : Option α → Act Workspace α
  | some reference => pure reference
  | none => throw .absentObject

/-! Scripts and enumerations. -/

def addScript (script : Script) : Act Workspace ScriptId := do
  let number := (← get).scripts.length
  modify fun space => { space with scripts := space.scripts ++ [script] }
  return number

def onScript {α : Type} (id : ScriptId) (act : ScriptAct α) : Act Workspace α := fun space =>
  match space.scripts[id]? with
  | none => .error .absentObject space
  | some script =>
      match act script with
      | .ok value changed => .ok value { space with scripts := space.scripts.set id changed }
      | .error fault changed =>
          .error fault { space with scripts := space.scripts.set id changed }

def letGo (id : ScriptId) (space : Workspace) : Workspace :=
  { space with scripts := space.scripts.modify id Script.letGo }

/-- Runs an action while a script is held. The script is given back however the action ends. -/
def holding {α : Type} (id : ScriptId) (act : Act Workspace α) : Act Workspace α := do
  onScript id Script.acquire
  act.ensuring (letGo id)

def onJournal {α : Type} (act : Act Journal α) : Act Workspace α :=
  act.on (·.journal) fun journal space => { space with journal }

def register (registration : Registration) : Act Workspace ScriptId := do
  addScript (← onJournal (registration.register (← get).types))

def registerEnum (name values : Datum) : Act Workspace Unit := do
  let nicks ← Act.ofExcept (EnumTypes.nicksOf values)
  let types := (← get).types
  let changed ← Act.ofExcept (types.register name nicks)
  if ← Act.ofExcept (types.contains name) then
    onJournal (modify (Journal.log .info .enumTypes s!"Replacing enum type {name.display}"))
  modify fun space => { space with types := changed }

def loadScripts (path : String) : Act Workspace (List ScriptId) := do
  let space ← get
  let scripts ← onJournal (Registration.loadFile space.types space.files path)
  scripts.mapM addScript

/-! Registries and tables. -/

def addRegistry : Act Workspace Nat := do
  let number := (← get).registries.length
  modify fun space => { space with registries := space.registries ++ [.empty] }
  return number

def addTable (registry : Option Nat) (kind : ProcedureKind) : Act Workspace Nat := do
  let number := (← get).tables.length
  modify fun space =>
    { space with tables := space.tables ++ [{ table := { kind, entries := [] }, registry }] }
  return number

def catalog (space : Workspace) (inUse : TableInUse) : Catalog :=
  { scripts := space.scripts
    table := inUse.table
    registry := inUse.registry.bind (space.registries[·]?)
    journal := space.journal }

def putRegistry (number : Option Nat) (registry : Option Registry) (registries : List Registry) :
    List Registry :=
  match number, registry with
  | some number, some registry => registries.set number registry
  | _, _ => registries

def takeBack (inUse : TableInUse) (catalog : Catalog) (space : Workspace) : Workspace :=
  { space with
    scripts := catalog.scripts
    registries := putRegistry inUse.registry catalog.registry space.registries
    journal := catalog.journal }

def onTable {α : Type} (number : Nat) (act : Act Catalog α) : Act Workspace α := fun space =>
  match space.tables[number]? with
  | none => .error .absentObject space
  | some inUse =>
      let back (catalog : Catalog) : Workspace :=
        { takeBack inUse catalog space with
          tables := space.tables.set number { inUse with table := catalog.table } }
      match act (space.catalog inUse) with
      | .ok value catalog => .ok value (back catalog)
      | .error fault catalog => .error fault (back catalog)

/-- Runs an action of a registry that no table takes part in. -/
def onRegistry {α : Type} (registry : Option Nat) (act : Act Catalog α) : Act Workspace α :=
  fun space =>
    let inUse : TableInUse := { table := { kind := .temporary, entries := [] }, registry }
    match act (space.catalog inUse) with
    | .ok value catalog => .ok value (takeBack inUse catalog space)
    | .error fault catalog => .error fault (takeBack inUse catalog space)

def install (registry : Option Nat) (script : Option ScriptId) (kind : ProcedureKind) :
    Act Workspace Procedure := do
  let _ ← expect registry
  let id ← expect script
  onRegistry registry (Catalog.install id kind)

def uninstallScript (registry : Option Nat) (script : Option ScriptId) : Act Workspace Unit := do
  let _ ← expect registry
  let id ← expect script
  onRegistry registry (Catalog.uninstall id)

def uninstall (registry : Option Nat) (name : Datum) : Act Workspace Unit :=
  onRegistry registry (Catalog.onRegistry (RegistryDesk.uninstall name))

def addToTable (table : Nat) (script : Option ScriptId) : Act Workspace Unit := do
  let id ← expect script
  onTable table (Catalog.add id)

/-! Histories and settings. -/

def addHistory (history : History) : Act Workspace Nat := do
  let number := (← get).histories.length
  modify fun space => { space with histories := space.histories ++ [history] }
  return number

def onHistory {α : Type} (number : Nat) (act : Act HistoryDesk α) : Act Workspace α :=
  fun space => match space.histories[number]? with
  | none => .error .absentObject space
  | some history =>
      let back (desk : HistoryDesk) : Workspace :=
        { space with histories := space.histories.set number desk.history, journal := desk.journal }
      match act { history, journal := space.journal } with
      | .ok value desk => .ok value (back desk)
      | .error fault desk => .error fault (back desk)

def config (number : Nat) : Act Workspace Config := do find (← get).configs number

def setConfig (number : Nat) (config : Config) : Act Workspace Unit :=
  modify fun space => { space with configs := space.configs.set number config }

def onConfig {α : Type} (number : Nat) (act : Act ConfigDesk α) : Act Workspace α := fun space =>
  match space.configs[number]? with
  | none => .error .absentObject space
  | some config =>
      let back (desk : ConfigDesk) : Workspace :=
        { space with
          configs := space.configs.set number desk.config
          files := desk.files
          journal := desk.journal }
      match act { config, files := space.files, journal := space.journal } with
      | .ok value desk => .ok value (back desk)
      | .error fault desk => .error fault (back desk)

/-- Takes settings into use: saved values are loaded, or defaults saved. -/
def startConfig (config : Config) : Act Workspace Nat := fun space =>
  match ConfigDesk.start { config, files := space.files, journal := space.journal } with
  | .ok _ desk =>
      .ok space.configs.length
        { space with
          configs := space.configs ++ [desk.config], files := desk.files, journal := desk.journal }
  | .error fault desk =>
      .error fault { space with files := desk.files, journal := desk.journal }

def openConfig (definitions path : Datum) : Act Workspace Nat := do
  let definitions ← Act.ofExcept (Config.readDefinitions (← get).files definitions)
  let config ← Act.ofExcept (Config.ofDefinitions definitions)
  startConfig (← Act.ofExcept (config.keepAt path))

/-- The shared settings, which are opened when they are first asked for. -/
def sharedConfig (path : Datum) : Act Workspace Nat := do
  match (← get).shared with
  | some number => return number
  | none =>
      let config ← Act.ofExcept Config.shipped
      let number ← startConfig (← Act.ofExcept (config.keepAt path))
      modify fun space => { space with shared := some number }
      return number

def forgetShared : Act Workspace Unit := modify fun space => { space with shared := none }

def ownerName : Owner → String
  | .named name => name
  | .runner number => toString number

/-- What functions of others do that are connected to settings, by number, with the new value if
they take it. They can do anything. -/
abbrev Listeners := Nat → Option Scalar → Act Workspace Unit

def notify (listeners : Listeners) (notice : Notice) : Act Workspace Unit :=
  let given (takesValue : Bool) : Option Scalar := if takesValue then some notice.value else none
  match notice.connection.callback with
  | .recorder takesValue =>
      onJournal (modify (Journal.emit (.settingChanged (ownerName notice.connection.owner)
        notice.connection.key (given takesValue))))
  | .capacity history => onHistory history (HistoryDesk.setCapacity (.ofScalar notice.value))
  | .foreign number takesValue => listeners number (given takesValue)

/-- Tells connections of a change in order, until one fails. -/
def notifyAll (listeners : Listeners) : List Notice → Act Workspace Unit
  | [] => pure ()
  | notice :: rest => do
      notify listeners notice
      notifyAll listeners rest

def changeSettingAmong (listeners : Listeners) (number : Nat) (key : String) (value : Datum)
    (saving : Bool) : Act Workspace Unit := do
  notifyAll listeners (← onConfig number (ConfigDesk.change key value saving))

def silent : Listeners := fun _ _ => pure ()

/-- Changes a setting where functions of others do nothing here. -/
def changeSetting (number : Nat) (key : String) (value : Datum) (saving : Bool) :
    Act Workspace Unit :=
  changeSettingAmong silent number key value saving

def connect (number : Nat) (connection : Connection) (parameters : Nat) : Act Workspace Unit := do
  let config ← config number
  setConfig number (← Act.ofExcept (config.connect connection parameters))

def disconnect (number : Nat) (owner : Owner) (key : String) : Act Workspace Unit := do
  let config ← config number
  setConfig number (← Act.ofExcept (config.disconnect owner key))

def resetConfig (number : Nat) : Act Workspace Unit := do
  let config ← config number
  setConfig number config.restoreDefaults

/-! Runners. -/

/-- The history of a new runner: a given one, or one of the configured size. -/
def runnerHistory (config : Config) : Option Nat → Act Workspace Nat
  | some history => pure history
  | none => do
      let capacity ← Act.ofExcept (config.get Config.maxHistoryKey)
      addHistory (← Act.ofExcept (History.make (.ofScalar capacity)))

/-- A new runner, whose history keeps to the configured size from now on. -/
def addRunner (config : Option Nat) (history : Option Nat) (interpret : Interpreter)
    (dialog : Option ArgumentDialog) : Act Workspace Nat := do
  let configNumber ← match config with
    | some number => pure number
    | none => sharedConfig (.text (← get).files.standardPath)
  let history ← runnerHistory (← Workspace.config configNumber) history
  let number := (← get).runners.length
  connect configNumber
    { key := Config.maxHistoryKey, owner := .runner number, callback := .capacity history } 1
  modify fun space =>
    { space with
      runners := space.runners ++ [{ config := configNumber, history, interpret, dialog }] }
  return number

def onRun {α : Type} (script history : Nat) (act : Act RunDesk α) : Act Workspace α :=
  fun space => match space.scripts[script]?, space.histories[history]? with
  | some live, some kept =>
      let back (desk : RunDesk) : Workspace :=
        { space with
          scripts := space.scripts.set script desk.script
          histories := space.histories.set history desk.record.history
          journal := desk.record.journal }
      match act { script := live, record := { history := kept, journal := space.journal } } with
      | .ok value desk => .ok value (back desk)
      | .error fault desk => .error fault (back desk)
  | _, _ => .error .absentObject space

def run (runner : Nat) (script : Option ScriptId) (invocation : Invocation) :
    Act Workspace (Option String) := do
  let id ← expect script
  let space ← get
  let inUse ← find space.runners runner
  let config ← config inUse.config
  onRun id inUse.history (RunDesk.run inUse.interpret inUse.dialog space.types config invocation)

def rerunLast (runner : Nat) : Act Workspace String := do
  let inUse ← find (← get).runners runner
  let config ← config inUse.config
  onHistory inUse.history (HistoryDesk.executeLast inUse.interpret config)

def resetScript (runner : Nat) (script : ScriptId) : Act Workspace Unit := do
  let space ← get
  let inUse ← find space.runners runner
  let config ← config inUse.config
  onRun script inUse.history (RunDesk.resetScript space.types config)

/-! Files. -/

def putFile (path text : String) : Act Workspace Unit := do
  let files ← Act.ofExcept ((← get).files.write path text)
  modify fun space => { space with files }

def fileText? (path : String) : Act Workspace (Option String) := do
  let files := (← get).files
  if files.contains path then return some (← Act.ofExcept (files.read path))
  else return none

end Workspace

end ScriptCatalog
