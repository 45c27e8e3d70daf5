import ScriptCatalog.Config.Entry
import ScriptCatalog.Files
import ScriptCatalog.Journal
import ScriptCatalog.Json.Writer
import ScriptCatalog.Text.UpperCase

/-! Settings by key, in the order they are defined. Values that are saved are kept in a file,
which is written anew whenever one of them changes. Others can ask to be told of changes: each owner
has at most one connection to a key, and connections are told in the order they were made. -/

namespace ScriptCatalog

variable [Platform]

inductive Owner where
  | named (name : String)
  | runner (number : Nat)
  deriving DecidableEq

/-- What to do when a setting changes: record the change, with the new value or without, take it as
the capacity of a history, or call a function of somebody else's, known by its number. -/
inductive Callback where
  | recorder (takesValue : Bool)
  | capacity (history : Nat)
  | foreign (number : Nat) (takesValue : Bool)
  deriving DecidableEq

structure Connection where
  key : String
  owner : Owner
  callback : Callback
  deriving DecidableEq

structure Config where
  entries : List ConfigEntry
  connections : List Connection
  savedPath : Option String

/-- A connection to be told of a change, with the new value. -/
structure Notice where
  connection : Connection
  value : Scalar

namespace Config

def entry? (config : Config) (key : String) : Option ConfigEntry :=
  config.entries.find? (·.key == key)

def entry (config : Config) (key : String) : Except Fault ConfigEntry :=
  match config.entry? key with
  | some entry => .ok entry
  | none => .error (.unknownSetting (.text key))

/-- The key that a value is. Keys are texts; other values that things can be looked up by are
unknown. -/
def keyOf (value : Datum) : Except Fault String := do
  value.expectHashable
  match value with
  | .text key => return key
  | value => throw (.unknownSetting value)

def get (config : Config) (key : String) : Except Fault Scalar :=
  return (← config.entry key).value

def keys (config : Config) : List String := config.entries.map (·.key)

def putEntry (entry : ConfigEntry) (config : Config) : Config :=
  { config with
    entries := config.entries.map fun other => if other.key == entry.key then entry else other }

/-- Names by which keys can be referred to: the key in capitals. Of several keys with the same
capitals the first has the name. -/
def constants (config : Config) : List (String × String) :=
  config.keys.foldl
    (fun known key =>
      if hasField (upperCase key) known then known else known ++ [(upperCase key, key)]) []

def definedEntries : List (String × Json) → Except Fault (List ConfigEntry)
  | [] => .ok []
  | (key, definition) :: rest => do
      (Datum.ofJson definition).expectType [.record]
      let entry ← ConfigEntry.ofDefinition key definition
      return entry :: (← definedEntries rest)

/-- Settings with their defaults, by their definitions, that are kept nowhere yet. -/
def ofDefinitions (definitions : Json) : Except Fault Config := do
  (Datum.ofJson definitions).expectType [.record]
  match definitions with
  | .object fields =>
      return { entries := ← definedEntries fields, connections := [], savedPath := none }
  | _ => return { entries := [], connections := [], savedPath := none }

/-- The definitions that a file holds. At a number there is no file. -/
def readDefinitions (files : Files) : Datum → Except Fault Json
  | .text path =>
      if files.contains path then do
        match Json.read (← files.read path) with
        | .ok definitions => return definitions
        | .error (.malformed fault) => throw (.definitionSyntax path fault)
        | .error (.beyond limit) => throw (.beyondReader limit)
      else .error (.noDefinitionFile (.text path))
  | .int number => .error (.noDefinitionFile (.int number))
  | .bool value => .error (.noDefinitionFile (.bool value))
  | other => .error (.notPath other.typeName)

/-- Settings that are kept at a path from now on, or nowhere. -/
def keepAt (path : Datum) (config : Config) : Except Fault Config :=
  match path with
  | .null => .ok { config with savedPath := none }
  | .text path => .ok { config with savedPath := some path }
  | other => .error (.notPath other.typeName)

def savedValues (config : Config) : List (String × Scalar) :=
  (config.entries.filter (·.saved)).map fun entry => (entry.key, entry.value)

def restoreDefaults (config : Config) : Config :=
  { config with entries := config.entries.map ConfigEntry.restoreDefault }

/-- Connections to a key, in the order they were made. -/
def connected (config : Config) (key : String) : List Connection :=
  config.connections.filter (·.key == key)

/-- Puts a connection in the place of the one that its owner has to the key, or at the end. -/
def putConnection (connection : Connection) : List Connection → List Connection
  | [] => [connection]
  | other :: rest =>
      if other.key = connection.key ∧ other.owner = connection.owner then connection :: rest
      else other :: putConnection connection rest

def connect (connection : Connection) (parameters : Nat) (config : Config) :
    Except Fault Config := do
  let _ ← config.entry connection.key
  if parameters > 1 then throw (.callbackParameters connection.key parameters)
  return { config with connections := putConnection connection config.connections }

def disconnect (owner : Owner) (key : String) (config : Config) : Except Fault Config := do
  let _ ← config.entry key
  return { config with
    connections := config.connections.filter fun other =>
      !(other.key == key && other.owner == owner) }

end Config

/-- Settings with the files they are saved in and the journal they write. -/
structure ConfigDesk where
  config : Config
  files : Files
  journal : Journal

namespace ConfigDesk

def log (channel : Channel) (text : String) : Act ConfigDesk Unit :=
  modify fun desk => { desk with journal := desk.journal.log .error channel text }

def writeFile (path text : String) : Act ConfigDesk Unit := do
  let desk ← get
  set { desk with files := ← Act.ofExcept (desk.files.write path text) }

/-- Writes the saved values, if there is a file for them. Of values that cannot all be written the
file is left with the first. -/
def save : Act ConfigDesk Unit := do
  let config := (← get).config
  match config.savedPath with
  | none => pure ()
  | some path =>
      if config.savedValues.all fun (_, value) => Json.canWrite value then
        writeFile path (Json.write config.savedValues)
      else
        writeFile path (Json.writeStart config.savedValues)
        throw (.tooManyDigits Platform.digits)

def loadEntries (saved : Json) : List ConfigEntry → Act ConfigDesk Unit
  | [] => pure ()
  | entry :: rest => do
      match saved.field? entry.key with
      | none => pure ()
      | some value =>
          let (changed, rejected) ← Act.ofExcept (entry.load value)
          modify fun desk => { desk with config := desk.config.putEntry changed }
          match rejected with
          | none => pure ()
          | some value =>
              log .configEntry s!"{entry.key}: ignoring invalid saved value {value.display}"
      loadEntries saved rest

/-- Takes over the values saved at a path. A file that holds no object is replaced by one with
the defaults. -/
def load (path : String) : Act ConfigDesk Unit := do
  let desk ← get
  let text ← Act.ofExcept (desk.files.read path)
  match Json.read text with
  | .error (.beyond limit) => throw (.beyondReader limit)
  | .error (.malformed fault) =>
      log .config s!"Reading saved config from {path} failed, restoring defaults: {fault.message}"
      save
  | .ok (.object fields) => loadEntries (.object fields) desk.config.entries
  | .ok _ =>
      log .config s!"Saved config at {path} is not a JSON object, restoring defaults"
      save

/-- Loads the saved values, or saves the defaults if there are none yet. -/
def start : Act ConfigDesk Unit := do
  let desk ← get
  match desk.config.savedPath with
  | none => pure ()
  | some path => if desk.files.contains path then load path else save

/-- Changes a setting and gives the connections to be told. Setting a value equal to the present
one tells nobody and saves nothing. -/
def change (key : String) (value : Datum) (saving : Bool) : Act ConfigDesk (List Notice) := do
  let entry ← Act.ofExcept ((← get).config.entry key)
  let (entry, changed) ← Act.ofExcept (entry.set value)
  modify fun desk => { desk with config := desk.config.putEntry entry }
  if changed then
    if saving then save
    let config := (← get).config
    return (config.connected key).map fun connection => { connection, value := entry.value }
  else return []

end ConfigDesk

end ScriptCatalog
