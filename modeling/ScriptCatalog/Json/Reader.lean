import ScriptCatalog.Number.Literal
import ScriptCatalog.Platform

/-! Reading JSON documents. A reader takes the text still to be read and gives a value with the
text after it; where it stops, the text still to be read marks the place. `NaN`, `Infinity` and
`-Infinity` are numbers, and of a repeated key the last value counts. Lists and objects can only
be nested, and integers be long, as the platform permits. Half of a surrogate pair on its own is no
character here, and documents that have one in a text go beyond the reader, whatever could be done
with them. -/

namespace ScriptCatalog

namespace Json

/-- What a bracket or a brace opens. -/
inductive Nest where
  | list
  | object
  deriving DecidableEq

def Nest.name : Nest → String
  | list => "array"
  | object => "object"

/-- What a reader does not get beyond: too deep a nesting, too long an integer, and half of a
surrogate pair on its own. -/
inductive Limit where
  | depth (nest : Nest)
  | digits (most found : Nat)
  | halfPair
  deriving DecidableEq

def Limit.message : Limit → String
  | depth nest =>
      s!"maximum recursion depth exceeded while decoding a JSON {nest.name} from a unicode string"
  | digits most found =>
      s!"Exceeds the limit ({most} digits) for integer string conversion: " ++
        s!"value has {found} digits; use sys.set_int_max_str_digits() to increase the limit"
  | halfPair => "half of a surrogate pair is no character"

inductive Cause where
  | expectingValue
  | expectingName
  | expectingColon
  | expectingComma
  | extraData
  | unterminatedText
  | controlCharacter
  | invalidEscape
  | invalidUnicodeEscape
  | byteOrderMark
  | beyond (limit : Limit)
  deriving DecidableEq

def Cause.message : Cause → String
  | expectingValue => "Expecting value"
  | expectingName => "Expecting property name enclosed in double quotes"
  | expectingColon => "Expecting ':' delimiter"
  | expectingComma => "Expecting ',' delimiter"
  | extraData => "Extra data"
  | unterminatedText => "Unterminated string starting at"
  | controlCharacter => "Invalid control character at"
  | invalidEscape => "Invalid \\escape"
  | invalidUnicodeEscape => "Invalid \\uXXXX escape"
  | byteOrderMark => "Unexpected UTF-8 BOM (decode using utf-8-sig)"
  | beyond limit => limit.message

/-- Why reading stopped, and the text from the place where it did. -/
structure Stop where
  cause : Cause
  rest : List Char

def isSpace (c : Char) : Bool := c == ' ' || c == '\t' || c == '\n' || c == '\r'

def skipSpace (input : List Char) : List Char := input.dropWhile isSpace

def simpleEscape? : Char → Option Char
  | '"' => some '"'
  | '\\' => some '\\'
  | '/' => some '/'
  | 'b' => some '\x08'
  | 'f' => some '\x0c'
  | 'n' => some '\n'
  | 'r' => some '\r'
  | 't' => some '\t'
  | _ => none

/-- A character by its code. Half a surrogate pair on its own is no character, and another one
stands for it until the document is read. -/
def charOfCode (code : Nat) : Char :=
  if 0xd800 ≤ code && code < 0xe000 then '\ufffd' else Char.ofNat code

/-- Reads the four hexadecimal digits after `\u`, with the second half of a surrogate pair if the
first half was read. A text cannot end right after the digits. `mark` is the text from the `u`. -/
def readUnicodeEscape (mark : List Char) : List Char → Except Stop (Char × List Char)
  | a :: b :: c :: d :: next :: rest =>
      match hexNumber? [a, b, c, d] with
      | none => .error ⟨.invalidUnicodeEscape, mark⟩
      | some code =>
          if isHighSurrogate code then
            match next :: rest with
            | '\\' :: 'u' :: e :: f :: g :: h :: last :: after =>
                match hexNumber? [e, f, g, h] with
                | none => .error ⟨.invalidUnicodeEscape, (next :: rest).tail⟩
                | some low =>
                    if isLowSurrogate low then .ok (joinSurrogates code low, last :: after)
                    else .ok (charOfCode code, next :: rest)
            | _ => .ok (charOfCode code, next :: rest)
          else .ok (charOfCode code, next :: rest)
  | _ => .error ⟨.invalidUnicodeEscape, mark⟩

/-- Reads one character of a text, escaped or not; none if the text is closed here. `opening` is
the text from the double quote that opened it. -/
def readCharacter (opening : List Char) : List Char → Except Stop (Option Char × List Char)
  | [] => .error ⟨.unterminatedText, opening⟩
  | '"' :: rest => .ok (none, rest)
  | '\\' :: [] => .error ⟨.unterminatedText, opening⟩
  | '\\' :: 'u' :: rest => do
      let (c, after) ← readUnicodeEscape ('u' :: rest) rest
      return (some c, after)
  | '\\' :: c :: rest =>
      match simpleEscape? c with
      | some plain => .ok (some plain, rest)
      | none => .error ⟨.invalidEscape, '\\' :: c :: rest⟩
  | c :: rest =>
      if c.toNat < 0x20 then .error ⟨.controlCharacter, c :: rest⟩ else .ok (some c, rest)

/-- Reads up to and past the double quote that closes a text. The fuel is at least the length of
what is still to be read, so a text that is closed is always read to its end. -/
def readText (opening : List Char) : Nat → List Char → Except Stop (List Char × List Char)
  | 0, _ => .error ⟨.unterminatedText, opening⟩
  | fuel + 1, input => do
      match ← readCharacter opening input with
      | (none, rest) => return ([], rest)
      | (some c, rest) =>
          let (characters, after) ← readText opening fuel rest
          return (c :: characters, after)

def readQuotedText (fuel : Nat) (input : List Char) : Except Stop (List Char × List Char) :=
  readText input fuel input.tail

/-- The digits before the point: a zero, or digits that do not start with one. -/
def wholeDigits : List Char → List Char
  | '0' :: _ => ['0']
  | input => input.takeWhile Char.isDigit

/-- The digits after the point, if a point with digits follows. -/
def pointDigits : List Char → List Char
  | '.' :: rest => rest.takeWhile Char.isDigit
  | _ => []

/-- The exponent, sign included, if one with digits follows. -/
def exponentText : List Char → List Char
  | mark :: rest =>
      if mark == 'e' || mark == 'E' then
        let sign := rest.takeWhile fun c => c == '+' || c == '-'
        let digits := (rest.drop sign.length).takeWhile Char.isDigit
        if sign.length ≤ 1 && !digits.isEmpty then mark :: sign ++ digits else []
      else []
  | [] => []

/-- Reads a number. One with a point or an exponent is a real number. -/
def readNumber? (input : List Char) : Option (Json × List Char) :=
  let negative := input.head? == some '-'
  let body := if negative then input.tail else input
  let whole := wholeDigits body
  let part := pointDigits (body.drop whole.length)
  let rest := (body.drop whole.length).drop (if part.isEmpty then 0 else part.length + 1)
  let exponent := exponentText rest
  let after := rest.drop exponent.length
  if whole.isEmpty then none
  else if part.isEmpty && exponent.isEmpty then
    let size : Int := Nat.ofDigitChars 10 whole 0
    some (int (if negative then -size else size), after)
  else some (real (.ofDigits negative whole part ((readExponent? exponent).getD 0)), after)

variable [Platform]

/-- The limit that a long integer is beyond. -/
def Limit.long (value : Int) : Limit :=
  digits Platform.digits (Nat.toDigits 10 value.natAbs).length

mutual

/-- Reads a value that starts here, with room for so many more open lists and objects. -/
def readValue : Nat → Nat → List Char → Except Stop (Json × List Char)
  | 0, _, input => .error ⟨.expectingValue, input⟩
  | fuel + 1, room, input =>
      match input with
      | '"' :: _ => do
          let (characters, rest) ← readQuotedText fuel input
          return (string (String.ofList characters), rest)
      | '[' :: rest =>
          match room with
          | 0 => .error ⟨.beyond (.depth .list), input⟩
          | room + 1 =>
              match skipSpace rest with
              | ']' :: after => .ok (array [], after)
              | items => do
                  let (items, after) ← readItems fuel room items
                  return (array items, after)
      | '{' :: rest =>
          match room with
          | 0 => .error ⟨.beyond (.depth .object), input⟩
          | room + 1 =>
              match skipSpace rest with
              | '}' :: after => .ok (object [], after)
              | fields => do
                  let (fields, after) ← readFields fuel room fields
                  return (object (fields.foldl (fun known (key, value) => putField key value known)
                    []), after)
      | 'n' :: 'u' :: 'l' :: 'l' :: rest => .ok (null, rest)
      | 't' :: 'r' :: 'u' :: 'e' :: rest => .ok (bool true, rest)
      | 'f' :: 'a' :: 'l' :: 's' :: 'e' :: rest => .ok (bool false, rest)
      | 'N' :: 'a' :: 'N' :: rest => .ok (real .nan, rest)
      | 'I' :: 'n' :: 'f' :: 'i' :: 'n' :: 'i' :: 't' :: 'y' :: rest =>
          .ok (real (.infinite false), rest)
      | '-' :: 'I' :: 'n' :: 'f' :: 'i' :: 'n' :: 'i' :: 't' :: 'y' :: rest =>
          .ok (real (.infinite true), rest)
      | _ =>
          match readNumber? input with
          | some (int value, rest) =>
              if isShort value then .ok (int value, rest) else .error ⟨.beyond (.long value), input⟩
          | some read => .ok read
          | none => .error ⟨.expectingValue, input⟩

/-- Reads the items of a list, of which there is at least one, and the bracket that closes it. -/
def readItems : Nat → Nat → List Char → Except Stop (List Json × List Char)
  | 0, _, input => .error ⟨.expectingValue, input⟩
  | fuel + 1, room, input => do
      let (item, rest) ← readValue fuel room input
      match skipSpace rest with
      | ']' :: after => return ([item], after)
      | ',' :: after =>
          let (items, last) ← readItems fuel room (skipSpace after)
          return (item :: items, last)
      | other => throw ⟨.expectingComma, other⟩

/-- Reads the fields of an object, of which there is at least one, and the brace that closes it. -/
def readFields : Nat → Nat → List Char → Except Stop (List (String × Json) × List Char)
  | 0, _, input => .error ⟨.expectingName, input⟩
  | fuel + 1, room, input =>
      match input with
      | '"' :: _ => do
          let (key, rest) ← readQuotedText fuel input
          match skipSpace rest with
          | ':' :: rest =>
              let (value, rest) ← readValue fuel room (skipSpace rest)
              match skipSpace rest with
              | '}' :: after => return ([(String.ofList key, value)], after)
              | ',' :: after =>
                  let (fields, last) ← readFields fuel room (skipSpace after)
                  return ((String.ofList key, value) :: fields, last)
              | other => throw ⟨.expectingComma, other⟩
          | other => throw ⟨.expectingColon, other⟩
      | _ => .error ⟨.expectingName, input⟩

end

/-- Reads a whole document: one value with nothing but space around it. A value or an item takes
one unit of fuel and at least one character, so twice the length of the text is enough. -/
def readDocument (input : List Char) : Except Stop Json :=
  if input.head? == some '\ufeff' then .error ⟨.byteOrderMark, input⟩
  else do
    let (value, rest) ← readValue (2 * input.length + 1) Platform.reading (skipSpace input)
    match skipSpace rest with
    | [] => return value
    | other => throw ⟨.extraData, other⟩

/-- A document that cannot be read, with the place of the fault: lines and columns count from
one, the offset from zero. -/
structure SyntaxFault where
  cause : Cause
  line : Nat
  column : Nat
  offset : Nat

def SyntaxFault.at (input : List Char) (stop : Stop) : SyntaxFault :=
  let before := input.take (input.length - stop.rest.length)
  { cause := stop.cause
    line := before.count '\n' + 1
    column := (before.reverse.takeWhile (· != '\n')).length + 1
    offset := before.length }

def SyntaxFault.message (fault : SyntaxFault) : String :=
  s!"{fault.cause.message}: line {fault.line} column {fault.column} (char {fault.offset})"

/-- Why a document cannot be read: it is not well formed, or goes beyond the reader. -/
inductive ReadFault where
  | malformed (fault : SyntaxFault)
  | beyond (limit : Limit)

def ReadFault.at (input : List Char) (stop : Stop) : ReadFault :=
  match stop.cause with
  | .beyond limit => beyond limit
  | _ => malformed (.at input stop)

/-- Whether there is an escape for half of a surrogate pair without one for the other half next to
it. -/
def holdsHalfPair : List Char → Bool
  | '\\' :: 'u' :: a :: b :: c :: d :: rest =>
      match hexNumber? [a, b, c, d] with
      | none => holdsHalfPair rest
      | some code =>
          if isHighSurrogate code then
            match rest with
            | '\\' :: 'u' :: e :: f :: g :: h :: after =>
                !(hexNumber? [e, f, g, h]).any isLowSurrogate || holdsHalfPair after
            | _ => true
          else isLowSurrogate code || holdsHalfPair rest
  | '\\' :: _ :: rest => holdsHalfPair rest
  | _ :: rest => holdsHalfPair rest
  | [] => false

def read (input : String) : Except ReadFault Json :=
  match readDocument input.toList with
  | .error stop => .error (ReadFault.at input.toList stop)
  | .ok value => if holdsHalfPair input.toList then .error (.beyond .halfPair) else .ok value

end Json

end ScriptCatalog
