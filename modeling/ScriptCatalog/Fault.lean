import ScriptCatalog.Datum.Display
import ScriptCatalog.Json.Reader

/-! Everything that can go wrong, by cause, with the kind of failure it counts as and its
message. -/

namespace ScriptCatalog

inductive FaultKind where
  | badType
  | badValue
  | badIndex
  | unknownKey
  | noAttribute
  | noFile
  | notFolder
  | isFolder
  | badPath
  | notAllowed
  | overflow
  | noMemory
  | noCharacter
  | tooDeep
  | failure
  | precondition
  deriving DecidableEq

def FaultKind.isFileTrouble : FaultKind → Bool
  | noFile | notFolder | isFolder | badPath | notAllowed => true
  | _ => false

/-- Failures of a running program, among which those of a nesting that is too deep count. -/
def FaultKind.isFailure : FaultKind → Bool
  | failure | tooDeep => true
  | _ => false

inductive Fault where
  /- Values of an unexpected type or size. -/
  | unexpectedType (expected : List TypeName) (value : Datum)
  | indexNotInt (value : Datum)
  | notList (value : Datum)
  | indexOutside (index : Int) (size : Nat)
  | notSized (found : TypeName)
  | notIterable (found : TypeName)
  | unhashable (found : TypeName)
  | noAttribute (found : TypeName) (member : String)
  | unexpectedField (kind : PayloadKind) (field : String)
  | fieldTwice (kind : PayloadKind) (field : String)
  | notTextItem (index : Nat) (found : TypeName)
  | noPosition (index : Nat)
  | noPositions (found : TypeName)
  | noRange
  | notPosition (found : TypeName)
  | notColor
  | notPath (found : TypeName)
  /- Numbers. -/
  | notReal (found : TypeName)
  | intTooLarge
  | tooManyDigits (most : Nat)
  | placesNotInt
  | placesTooLarge
  | indexTooLarge
  | countTooLarge
  | countBeyondMemory
  | countNotWhole
  | colorNumberOutside
  | componentTooLarge
  | notOrdered (operator : String) (left right : TypeName)
  | boundNotInt
  | notIntText (text : String)
  | notIntSource (found : TypeName)
  | nanToInt
  | infinityToInt
  | notRealText (text : String)
  | notRealSource (found : TypeName)
  | shownTooDeep
  /- Values passed in by the host. -/
  | boolParameter (expected : List TypeName) (value : Bool)
  | wrongParameter (expected : List TypeName) (value : Datum)
  | notItem (value : Datum)
  /- Declared defaults. -/
  | notSequence (lengths : List Nat) (value : Datum)
  | wrongLength (lengths : List Nat) (length : Nat)
  | notANumber (value : Datum)
  | notAnInteger (value : Datum)
  | componentOutside (component : Int)
  | invalidColor (value : Datum)
  | unknownSlider (value : Int)
  | boundsCrossed (lower upper : Binary64)
  | noLabels (value : Datum)
  | unknownEnumDefault (typeName : String)
  /- Enumerations. -/
  | emptyEnum (typeName : Datum)
  | unknownEnum (typeName : Datum)
  | unboundEnum (typeName : Datum)
  | notEnumValue (nick typeName : Datum) (nicks : List String)
  /- Tokens of closed sets. -/
  | unknownArgKind (value : Datum)
  | unknownProcedureKind (value : Datum)
  | unknownRunMode (value : Datum)
  /- Registration. -/
  | invalidScriptName (value : Datum)
  | fieldNotText (script field : String) (value : Datum)
  | notDeclaration (script : String) (position : Nat)
  | unknownDeclaredKind (script : String) (position : Nat) (token : Datum)
  | labelNotText (script : String) (position : Nat) (label : Datum)
  | invalidDefault (script : String) (position : Nat) (kind : ArgKind) (label : String)
      (default : Datum) (cause : Fault)
  | payloadMismatch (label : Datum) (kind : ArgKind) (found : TypeName)
  /- Scripts. -/
  | absentObject
  | negativeCount (script count : Datum)
  | destroyedScript
  | undefinedArgument (script index : Datum)
  | noSuchSlot (script index : Datum)
  | noSuchArgument
  | noScriptAttribute (field : String)
  | concurrentAccess (script : Datum)
  | noScriptNamed (name : Datum)
  | noParameterNamed (procedure name : Datum)
  /- Files. -/
  | noFile (path : String)
  | notFolder (path : String)
  | isFolder (path : String)
  | nameTooLong (path : String)
  | notAllowed (path : String)
  | nullInPath
  | beyondReader (limit : Json.Limit)
  /- Script files. -/
  | scriptFileSyntax (path : String) (fault : Json.SyntaxFault)
  | scriptFileNotList (path : String)
  | scriptFileEntry (path : String) (index : Nat)
  | scriptFileField (path : String) (index : Nat) (field : String)
  /- Invocations. -/
  | missingRunMode
  | tooFewValues (script : Datum) (expected found : Nat)
  | wrongValueCount (script : Datum) (expected found : Nat)
  | nothingToRepeat
  | unboundVariable (command : Datum)
  | sizeNotPositive
  /- Parameters and settings. -/
  | emptyName
  | unsupportedValue (value : Datum)
  | rangeNotAllowed (name : Datum) (kind : ScalarKind)
  | limitMismatch (name : Datum) (limit : Scalar) (kind : ScalarKind)
  | limitsCrossed (name : Datum) (minimum maximum : Scalar)
  | wrongKind (name : Datum) (kind : ScalarKind) (value : Datum)
  | outsideRange (name : Datum) (value : Scalar) (minimum maximum : Option Scalar)
  | noDefinitionFile (path : Datum)
  | definitionSyntax (path : String) (fault : Json.SyntaxFault)
  | missingDefinitionField (key field : String)
  | unsupportedDefinition (key : String) (typeName : Json)
  | unknownSetting (key : Datum)
  | callbackParameters (key : String) (count : Nat)
  deriving Inhabited

namespace Fault

def kind : Fault → FaultKind
  | unexpectedType .. | indexNotInt .. | notList .. | notSized .. | notIterable ..
  | unhashable .. | unexpectedField .. | fieldTwice .. | notTextItem .. | noPositions ..
  | noRange | notPosition .. | notColor | notPath .. | placesNotInt | countNotWhole
  | notOrdered .. | boundNotInt | notReal .. | notIntSource .. | notRealSource ..
  | boolParameter .. | wrongParameter .. | notItem .. | notSequence .. | notANumber ..
  | notAnInteger .. | payloadMismatch .. | unsupportedValue .. | rangeNotAllowed ..
  | limitMismatch .. | wrongKind .. => .badType
  | indexOutside .. | notIntText .. | nanToInt | notRealText .. | wrongLength ..
  | componentOutside .. | invalidColor .. | unknownSlider .. | boundsCrossed .. | noLabels ..
  | unknownEnumDefault .. | emptyEnum .. | unboundEnum .. | notEnumValue .. | unknownArgKind ..
  | unknownProcedureKind .. | unknownRunMode .. | invalidScriptName .. | fieldNotText ..
  | notDeclaration .. | unknownDeclaredKind .. | labelNotText .. | invalidDefault ..
  | wrongValueCount .. | limitsCrossed .. | outsideRange .. | nullInPath | tooManyDigits ..
  | beyondReader (.digits ..) => .badValue
  | noSuchArgument | indexTooLarge => .badIndex
  | unknownEnum .. | noScriptNamed .. | noParameterNamed .. | unknownSetting .. | noPosition .. =>
      .unknownKey
  | noAttribute .. | noScriptAttribute .. => .noAttribute
  | noFile .. => .noFile
  | notFolder .. => .notFolder
  | isFolder .. => .isFolder
  | nameTooLong .. => .badPath
  | notAllowed .. => .notAllowed
  | beyondReader (.depth ..) | shownTooDeep => .tooDeep
  | beyondReader .halfPair => .noCharacter
  | countBeyondMemory => .noMemory
  | intTooLarge | placesTooLarge | infinityToInt | countTooLarge | colorNumberOutside
  | componentTooLarge => .overflow
  | concurrentAccess .. | scriptFileSyntax .. | scriptFileNotList .. | scriptFileEntry ..
  | scriptFileField .. | nothingToRepeat | unboundVariable .. | noDefinitionFile ..
  | definitionSyntax .. | missingDefinitionField .. | unsupportedDefinition ..
  | callbackParameters .. => .failure
  | absentObject | negativeCount .. | destroyedScript | undefinedArgument .. | noSuchSlot ..
  | missingRunMode | tooFewValues .. | sizeNotPositive | emptyName => .precondition

def orList (lengths : List Nat) : String := " or ".intercalate (lengths.map toString)

def limitText : Option Scalar → String
  | none => "None"
  | some limit => limit.display

/-- The kind of a value as settings name it, or its type if settings have no such kind. -/
def kindText (value : Datum) : String :=
  match value.scalar? with
  | some scalar => scalar.kind.name
  | none => value.typeName.display

def message : Fault → String
  | unexpectedType expected value =>
      s!"Expected value of type {TypeName.displayAll expected}, got value {value.display}"
  | indexNotInt value => s!"Expected int index, got {value.display}"
  | notList value => s!"Expected list, got {value.display}"
  | indexOutside index size => s!"index {index} is invalid, expected (0 <= index < {size})"
  | notSized found => s!"object of type '{found.operandName}' has no len()"
  | notIterable found => s!"'{found.operandName}' object is not iterable"
  | unhashable found => s!"unhashable type: '{found.operandName}'"
  | noAttribute found member => s!"'{found.operandName}' object has no attribute '{member}'"
  | unexpectedField kind field =>
      s!"{kind.name}.__init__() got an unexpected keyword argument '{field}'"
  | fieldTwice kind field => s!"{kind.name}.__init__() got multiple values for argument '{field}'"
  | notTextItem index found =>
      s!"sequence item {index}: expected str instance, {found.operandName} found"
  | noPosition index => toString index
  | noPositions found => s!"'{found.operandName}' object is not subscriptable"
  | noRange => "unhashable type: 'slice'"
  | notPosition found =>
      s!"list indices must be integers or slices, not {found.operandName}"
  | notColor => "QVariant must be holding a QColor"
  | notPath found =>
      s!"stat: path should be string, bytes, os.PathLike or integer, not {found.operandName}"
  | notReal found => s!"must be real number, not {found.operandName}"
  | intTooLarge => "int too large to convert to float"
  | tooManyDigits most =>
      s!"Exceeds the limit ({most} digits) for integer string conversion; " ++
        "use sys.set_int_max_str_digits() to increase the limit"
  | shownTooDeep => "maximum recursion depth exceeded while getting the repr of an object"
  | placesNotInt => "* wants int"
  | placesTooLarge => "Python int too large to convert to C int"
  | indexTooLarge | countTooLarge => "cannot fit 'int' into an index-sized integer"
  | countBeyondMemory => ""
  | countNotWhole => "can't multiply sequence by non-int of type 'float'"
  | colorNumberOutside => ""
  | componentTooLarge => "int too big to convert"
  | notOrdered operator left right =>
      s!"'{operator}' not supported between instances of '{left.operandName}' and " ++
        s!"'{right.operandName}'"
  | boundNotInt => "slice indices must be integers or None or have an __index__ method"
  | notIntText text =>
      "invalid literal for int() with base 10: " ++ String.ofList ((literal text).toList.take 200)
  | notIntSource found =>
      "int() argument must be a string, a bytes-like object or a real number, not '" ++
        found.operandName ++ "'"
  | nanToInt => "cannot convert float NaN to integer"
  | infinityToInt => "cannot convert float infinity to integer"
  | notRealText text => s!"could not convert string to float: {literal text}"
  | notRealSource found =>
      s!"float() argument must be a string or a real number, not '{found.operandName}'"
  | boolParameter expected value =>
      s!"Expected {TypeName.displayAll expected} parameter, got bool {displayBool value}"
  | wrongParameter expected value =>
      s!"Expected {TypeName.displayAll expected} parameter, got {value.typeName.display}: " ++
        value.display
  | notItem value => s!"Expected an image, item or display parameter, got {value.display}"
  | notSequence lengths value =>
      s!"Expected a list of {orList lengths} values, got {value.display}"
  | wrongLength lengths length => s!"Expected {orList lengths} values, got {length}"
  | notANumber value => s!"Expected a number, got {value.display}"
  | notAnInteger value => s!"Expected an integer, got {value.display}"
  | componentOutside component => s!"Color component {component} is not within 0-255"
  | invalidColor value => s!"Invalid color {value.display}"
  | unknownSlider value => s!"Invalid adjustment type {value}"
  | boundsCrossed lower upper =>
      s!"Adjustment lower bound {lower.display} is greater than upper bound {upper.display}"
  | noLabels value => s!"Expected a non-empty list of option labels, got {value.display}"
  | unknownEnumDefault typeName => s!"Unknown enum type \"{typeName}\""
  | emptyEnum typeName => s!"Enum type {typeName.display} has no values"
  | unknownEnum typeName => s!"Unknown enum type \"{typeName.display}\""
  | unboundEnum typeName => s!"Enum argument bound to unknown enum type \"{typeName.display}\""
  | notEnumValue nick typeName nicks =>
      s!"\"{nick.display}\" is not a value of enum type {typeName.display}, expected one of " ++
        (Datum.list (nicks.map Datum.text)).display
  | unknownArgKind value => s!"{value.inner} is not a valid ArgType"
  | unknownProcedureKind value => s!"{value.inner} is not a valid ProcedureType"
  | unknownRunMode value => s!"{value.inner} is not a valid RunMode"
  | invalidScriptName value => s!"Invalid script name {value.display}"
  | fieldNotText script field value => s!"{script}: {field} must be a string, got {value.display}"
  | notDeclaration script position =>
      s!"{script}: argument {position} is not a (type, label, default) declaration"
  | unknownDeclaredKind script position token =>
      s!"{script}: argument {position} has unknown type \"{token.display}\""
  | labelNotText script position label =>
      s!"{script}: argument {position} label must be a string, got {label.display}"
  | invalidDefault script position kind label default cause =>
      s!"{script}: argument {position} ({kind.token}, \"{label}\"): invalid default " ++
        s!"{default.display}: {cause.message}"
  | payloadMismatch label kind found =>
      s!"Argument \"{label.display}\" has type {kind.token}, expected {kind.payloadKind.name} " ++
        s!"value but got {found.name}"
  | absentObject => ""
  | negativeCount script count =>
      s!"Invalid argument count {count.display} for script {script.display}"
  | destroyedScript => "Tried to use a destroyed script"
  | undefinedArgument script index =>
      s!"Script {script.display}: argument {index.display} was never defined"
  | noSuchSlot script index =>
      s!"Script {script.display}: invalid argument index {index.display}"
  | noSuchArgument => "list index out of range"
  | noScriptAttribute field => s!"'Script' object has no attribute '{field}'"
  | concurrentAccess script => s!"Concurrent access to script {script.display} detected!"
  | noScriptNamed name => s!"No script named \"{name.display}\""
  | noParameterNamed procedure name =>
      s!"Procedure {procedure.display} has no parameter \"{name.display}\""
  | noFile path => s!"[Errno 2] No such file or directory: {literal path}"
  | notFolder path => s!"[Errno 20] Not a directory: {literal path}"
  | isFolder path => s!"[Errno 21] Is a directory: {literal path}"
  | nameTooLong path => s!"[Errno 36] File name too long: {literal path}"
  | notAllowed path => s!"[Errno 13] Permission denied: {literal path}"
  | nullInPath => "embedded null byte"
  | beyondReader limit => limit.message
  | scriptFileSyntax path fault => s!"Reading script file {path} failed: {fault.message}"
  | scriptFileNotList path => s!"Script file {path} must contain a list of script registrations"
  | scriptFileEntry path index =>
      s!"Script file {path}: entry {index} is not a script registration"
  | scriptFileField path index field =>
      s!"Script file {path}: entry {index} is missing {literal field}"
  | missingRunMode => "Invocations must start with a run mode"
  | tooFewValues script expected found =>
      s!"{script.display}: expected {expected} invocation values, got {found}"
  | wrongValueCount script expected found =>
      s!"{script.display}: expected {expected} arguments after the run mode, got {found}"
  | nothingToRepeat => "No command to repeat"
  | unboundVariable command => s!"unbound variable in {command.display}"
  | sizeNotPositive => ""
  | emptyName => ""
  | unsupportedValue value =>
      s!"Unsupported parameter value {value.display} of type {value.typeName.display}"
  | rangeNotAllowed name kind => s!"{name.display}: {kind.name} values can't have a range"
  | limitMismatch name limit kind =>
      s!"{name.display}: range limit {limit.display} doesn't match value type {kind.name}"
  | limitsCrossed name minimum maximum =>
      s!"{name.display}: minimum {minimum.display} is greater than maximum {maximum.display}"
  | wrongKind name kind value =>
      s!"{name.display}: expected {kind.name}, got {value.display} ({kindText value})"
  | outsideRange name value minimum maximum =>
      s!"{name.display}: {value.display} is not within {limitText minimum}-{limitText maximum}"
  | noDefinitionFile path => s!"Config definition file not found at {path.display}"
  | definitionSyntax path fault =>
      s!"Reading config definitions from {path} failed: {fault.message}"
  | missingDefinitionField key field => s!"{key}: definition is missing \"{field}\""
  | unsupportedDefinition key typeName =>
      s!"{key}: unsupported definition type \"{typeName.display}\""
  | unknownSetting key => s!"Unknown config key \"{key.display}\""
  | callbackParameters key count =>
      s!"Callback connected to {key} takes {count} parameters, expected 0 or 1"

/-- The values that a message shows and that whoever causes the fault decides on. -/
def shown : Fault → List Datum
  | unexpectedType _ value | indexNotInt value | notList value | wrongParameter _ value
  | notItem value | notSequence _ value | notANumber value | notAnInteger value
  | invalidColor value | noLabels value | unknownArgKind value | unknownProcedureKind value
  | unknownRunMode value | invalidScriptName value | fieldNotText _ _ value
  | unknownDeclaredKind _ _ value | labelNotText _ _ value | unsupportedValue value => [value]
  | indexOutside value _ | componentOutside value | unknownSlider value => [.int value]
  | emptyEnum name | unknownEnum name | unboundEnum name | payloadMismatch name _ _
  | concurrentAccess name | noScriptNamed name | tooFewValues name _ _ | wrongValueCount name _ _
  | unboundVariable name | rangeNotAllowed name _ | noDefinitionFile name
  | unknownSetting name => [name]
  | notEnumValue nick typeName _ => [nick, typeName]
  | negativeCount script count => [count, script]
  | undefinedArgument script index | noSuchSlot script index => [script, index]
  | noParameterNamed procedure name => [procedure, name]
  | limitMismatch name limit _ => [name, .ofScalar limit]
  | limitsCrossed name minimum maximum => [name, .ofScalar minimum, .ofScalar maximum]
  | wrongKind name _ value => [name, value]
  | outsideRange name value minimum maximum =>
      [name, .ofScalar value] ++ (minimum.toList ++ maximum.toList).map .ofScalar
  | _ => []

end Fault

variable [Platform]

/-- What comes of writing a value out that cannot be. -/
def Obstacle.fault : Obstacle → Fault
  | tooLong => .tooManyDigits Platform.digits
  | tooDeep => .shownTooDeep

namespace Fault

/-- What is raised where a fault is to be raised: another one if a value in its message cannot be
written out. The cause of an invalid default is raised and handled before, unless that is a failure
of another kind. -/
def raised : Fault → Fault
  | invalidDefault script position kind label default cause =>
      if cause.raised.kind = .tooDeep then cause.raised
      else match default.unshown? with
        | some obstacle => obstacle.fault
        | none => invalidDefault script position kind label default cause.raised
  | fault =>
      match fault.shown.findSome? Datum.unshown? with
      | some obstacle => obstacle.fault
      | none => fault

end Fault

namespace Datum

/-- The text that a value is written out as, if it can be. -/
def written (value : Datum) : Except Fault String :=
  match value.unshown? with
  | some obstacle => .error obstacle.fault
  | none => .ok value.display

theorem written_eq_ok_iff (value : Datum) (words : String) :
    value.written = .ok words ↔ value.unshown? = none ∧ words = value.display := by
  unfold written
  cases value.unshown? with
  | none => simp [eq_comm]
  | some obstacle => simp

end Datum

end ScriptCatalog
