import ScriptCatalog.Argument.Token
import ScriptCatalog.Number.Literal

/-! The command line of the script tool. Long switches can be shortened as long as only one fits;
switches without a value can be written together behind one dash; after `--` nothing is a switch.
The first word that is neither a switch nor the value of one names the script file. A value that is
`--` itself is dropped, and the switch is left with an empty list of values. -/

namespace ScriptCatalog

variable [Platform]

inductive Switch where
  | help
  | list
  | describe
  | command
  | precision
  | settings
  | config
  | verbose
  deriving DecidableEq

namespace Switch

def takesValue : Switch → Bool
  | describe | command | precision | config => true
  | _ => false

def spellings : List (String × Switch) := [
  ("-h", help), ("--help", help), ("--list", list), ("--describe", describe),
  ("--command", command), ("--precision", precision), ("--settings", settings),
  ("--config", config), ("-v", verbose), ("--verbose", verbose)]

def ofSpelling? (spelling : String) : Option Switch := spellings.lookup spelling

end Switch

/-- What a word of a command line is. A switch can have a value attached in the same word, and is
short if it was written with one dash. -/
inductive Word where
  | plain (text : String)
  | separator
  | switch (switch : Switch) (short : Bool) (attached : Option String)
  | unknown

namespace Word

/-- A dash with digits, perhaps with a point before some of them. -/
def isNegativeNumber (word : List Char) : Bool :=
  let digits (text : List Char) : Bool :=
    !text.isEmpty && text.all fun c => (decimalDigit? c).isSome
  let body := word.drop 1
  let body := if body.getLast? == some '\n' then body.dropLast else body
  word.head? == some '-' && (digits body ||
    (body.dropWhile (· != '.')).head? == some '.' &&
      (let whole := body.takeWhile (· != '.')
       (whole.isEmpty || digits whole) && digits ((body.dropWhile (· != '.')).drop 1)))

/-- The part of a word before its first `=`, and what is attached after it. -/
def splitEquals (word : List Char) : String × Option String :=
  let name := word.takeWhile (· != '=')
  let value := String.ofList (word.drop (name.length + 1))
  (String.ofList name, if word.contains '=' then some value else none)

/-- Words that a switch can be, given that it is not spelled in full. -/
def guesses (word : List Char) : List Word :=
  if word.take 2 == ['-', '-'] then
    let (start, attached) := splitEquals word
    (Switch.spellings.filter fun (spelling, _) => start.toList.isPrefixOf spelling.toList).map
      fun (_, found) => switch found false attached
  else
    (Switch.spellings.filter fun (spelling, _) => spelling.toList == word.take 2).map
      fun (_, found) => switch found true (some (String.ofList (word.drop 2)))

/-- Tells what a word is; none if it could be several switches. -/
def classify? (word : String) : Option Word :=
  let characters := word.toList
  let short := characters.take 2 != ['-', '-']
  if characters.head? != some '-' || characters.length == 1 then some (plain word)
  else match Switch.ofSpelling? word with
    | some found => some (switch found short none)
    | none =>
        let (name, attached) := splitEquals characters
        match attached, Switch.ofSpelling? name with
        | some attached, some found => some (switch found short (some attached))
        | _, _ =>
            match guesses characters with
            | [only] => some only
            | [] =>
                if isNegativeNumber characters || characters.contains ' ' then some (plain word)
                else some unknown
            | _ => none

def classifyAll? : List String → Option (List Word)
  | [] => some []
  | word :: rest =>
      if word == "--" then some (separator :: rest.map plain)
      else do
        let first ← classify? word
        return first :: (← classifyAll? rest)

end Word

structure ToolOptions where
  scriptFile : Option String
  list : Bool
  describe : Option Datum
  command : Option Datum
  precision : Option Precision
  settings : Bool
  config : Option Datum
  verbose : Bool

namespace ToolOptions

def none : ToolOptions :=
  { scriptFile := .none, list := false, describe := .none, command := .none, precision := .none
    settings := false, config := .none, verbose := false }

/-- Why no options come of a command line: help was asked for, or it is not understood. -/
inductive Refusal where
  | help
  | misuse
  deriving DecidableEq

def setFlag (options : ToolOptions) : Switch → Except Refusal ToolOptions
  | .help => .error .help
  | .list => .ok { options with list := true }
  | .settings => .ok { options with settings := true }
  | .verbose => .ok { options with verbose := true }
  | _ => .error .misuse

def givenValue (word : String) : Datum := if word == "--" then .list [] else .text word

def givenPrecision (word : String) : Except Refusal Precision :=
  if word == "--" then .ok .unusable
  else match readInt? word with
    | some places =>
        if countDigits word ≤ Platform.digits then .ok (.places places) else .error .misuse
    | .none => .error .misuse

def setValue (options : ToolOptions) (word : String) : Switch → Except Refusal ToolOptions
  | .describe => .ok { options with describe := some (givenValue word) }
  | .command => .ok { options with command := some (givenValue word) }
  | .config => .ok { options with config := some (givenValue word) }
  | .precision => return { options with precision := some (← givenPrecision word) }
  | _ => .error .misuse

/-- The switches that further characters of a word stand for. -/
def together : List Char → Except Refusal (List Switch)
  | [] => .ok []
  | c :: rest =>
      match Switch.ofSpelling? (String.ofList ['-', c]) with
      | .none => .error .misuse
      | some found => return found :: (← together rest)

/-- The switches of a word that starts with one that takes no value. -/
def flagsOf (found : Switch) (short : Bool) : Option String → Except Refusal (List Switch)
  | .none => .ok [found]
  | some attached =>
      if short && !attached.isEmpty then return found :: (← together attached.toList)
      else .error .misuse

def setFlags (options : ToolOptions) : List Switch → Except Refusal ToolOptions
  | [] => .ok options
  | found :: rest => do setFlags (← options.setFlag found) rest

/-- Reads words from the left. `named` tells whether the script file was named, and `understood`
whether there was nothing too many so far. -/
def read (options : ToolOptions) (named understood : Bool) :
    List Word → Except Refusal ToolOptions
  | [] => if understood then .ok options else .error .misuse
  | .separator :: rest =>
      match rest with
      | .plain file :: [] =>
          if understood && !named then .ok { options with scriptFile := some file }
          else .error .misuse
      | [] => if understood && !named then .ok options else .error .misuse
      | _ => .error .misuse
  | .plain file :: rest =>
      if named then read options named false rest
      else match rest with
        | [.separator] =>
            if understood then .ok { options with scriptFile := some file } else .error .misuse
        | rest => read { options with scriptFile := some file } true understood rest
  | .unknown :: rest => read options named false rest
  | .switch found short attached :: rest =>
      if found.takesValue then
        match attached, rest with
        | some word, rest => do read (← options.setValue word found) named understood rest
        | .none, .plain word :: rest => do
            read (← options.setValue word found) named understood rest
        | .none, _ => .error .misuse
      else do
        let flags ← flagsOf found short attached
        read (← options.setFlags flags) named understood rest

def ofWords (words : List String) : Except Refusal ToolOptions :=
  match Word.classifyAll? words with
  | .none => .error .misuse
  | some words => read none false true words

end ToolOptions

end ScriptCatalog
