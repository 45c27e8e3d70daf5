import ScriptCatalog.Argument.Token
import ScriptCatalog.Config.Basic

/-! The settings of the script engine itself, with their keys and definitions. -/

namespace ScriptCatalog

variable [Platform]

namespace Config

def precisionKey : String := "command_float_precision"

def logCommandsKey : String := "log_commands"

def maxHistoryKey : String := "max_history"

def resetIdsKey : String := "reset_ids_on_reset"

def definition (type : String) (default : Json) (label category description : String)
    (range : Option (Int × Int)) : Json :=
  .object ([("type", .string type), ("default", default), ("label", .string label),
    ("category", .string category), ("description", .string description)] ++
    (range.map fun (least, most) =>
      ("range_options", Json.object [("min", .int least), ("max", .int most)])).toList ++
    [("saved", .bool true)])

def shippedDefinitions : Json :=
  .object [
    (precisionKey, definition "int" (.int 6) "Float precision" "Commands"
      ("Digits written after the decimal point for adjustment and brush opacity values in " ++
        "command text.")
      (some (1, 17))),
    (logCommandsKey, definition "bool" (.bool true) "Log commands" "Commands"
      "Write every executed script command to the application log." none),
    (maxHistoryKey, definition "int" (.int 50) "Command history size" "History"
      "Maximum number of executed script commands kept in the command history."
      (some (1, 1000))),
    (resetIdsKey, definition "bool" (.bool false) "Reset image and item arguments" "Arguments"
      ("When script arguments are reset, also restore image, drawable, layer, channel, vectors " ++
        "and display arguments to their defaults.") none)]

def shipped : Except Fault Config := ofDefinitions shippedDefinitions

def getTruth (config : Config) (key : String) : Except Fault Bool :=
  return (Datum.ofScalar (← config.get key)).truth

def getPrecision (config : Config) : Except Fault Precision :=
  return .ofScalar (← config.get precisionKey)

end Config

end ScriptCatalog
