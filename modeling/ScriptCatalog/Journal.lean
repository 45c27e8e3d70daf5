import ScriptCatalog.Act
import ScriptCatalog.Text.Utf16

/-! What happens while actions run, in order: events that others are told of, log records, and
lines written for the user. What registries, tables and histories signal is passed on as 16-bit
units, and heard as such. -/

namespace ScriptCatalog

inductive Event where
  | installed (procedure : String)
  | uninstalled (procedure : String)
  | added (script : String)
  | removed (script : String)
  | commandAdded (command : String)
  | historyCleared
  | settingChanged (owner key : String) (value : Option Scalar)
  | interpreted (command : Datum)
  | dialogOpened (script : Datum) (bound : Nat)

/-- A value as those hear it who are told of it as a text. Of what is no text they hear nothing. -/
def heard [Platform] : Datum → String
  | .text words => passedText words
  | _ => ""

inductive Level where
  | info
  | warning
  | error
  deriving DecidableEq

namespace Level

def name : Level → String
  | info => "INFO"
  | warning => "WARNING"
  | error => "ERROR"

end Level

inductive Channel where
  | registration
  | scriptFile
  | scriptTable
  | procedures
  | enumTypes
  | config
  | configEntry
  | runner
  | tool
  deriving DecidableEq

namespace Channel

def name : Channel → String
  | registration => "scriptfu.script.registration"
  | scriptFile => "scriptfu.script.script_file"
  | scriptTable => "scriptfu.script.script_table"
  | procedures => "scriptfu.procedure.procedure_registry"
  | enumTypes => "scriptfu.script.enum_types"
  | config => "scriptfu.config.config"
  | configEntry => "scriptfu.config.config_entry"
  | runner => "scriptfu.controller.script_runner"
  | tool => "script_fu_tool"

end Channel

structure LogRecord where
  level : Level
  channel : Channel
  text : String

inductive JournalEntry where
  | event (event : Event)
  | record (record : LogRecord)
  | printed (text : String)
  | complained (text : String)

abbrev Journal := List JournalEntry

namespace Journal

def emit (event : Event) (journal : Journal) : Journal := journal ++ [.event event]

def log (level : Level) (channel : Channel) (text : String) (journal : Journal) : Journal :=
  journal ++ [.record { level, channel, text }]

def events (journal : Journal) : List Event :=
  journal.filterMap fun
    | .event event => some event
    | _ => none

def records (journal : Journal) : List LogRecord :=
  journal.filterMap fun
    | .record record => some record
    | _ => none

theorem events_append (left right : Journal) :
    events (left ++ right) = events left ++ events right := by
  simp [events]

end Journal

end ScriptCatalog
