import ScriptCatalog.Number.Shortest
import ScriptCatalog.Platform
import ScriptCatalog.Scalar
import ScriptCatalog.Text.Literal

/-! Writing plain values under their keys as a JSON object, one field to a line, four spaces in.
Writing ends before the first integer that is too long to be written out. -/

namespace ScriptCatalog

namespace Json

/-- Double quotes, backslashes and control characters are escaped, and nothing else is. -/
def escapedChar (c : Char) : List Char :=
  if c == '"' || c == '\\' then ['\\', c]
  else if c == '\n' then ['\\', 'n']
  else if c == '\r' then ['\\', 'r']
  else if c == '\t' then ['\\', 't']
  else if c == '\x08' then ['\\', 'b']
  else if c == '\x0c' then ['\\', 'f']
  else if c.toNat < 0x20 then '\\' :: 'u' :: hexDigits 4 c.toNat
  else [c]

def writeText (text : String) : List Char := '"' :: text.toList.flatMap escapedChar ++ ['"']

def writeReal : Binary64 → List Char
  | .nan => ['N', 'a', 'N']
  | .infinite negative =>
      Binary64.signChars negative ++ ['I', 'n', 'f', 'i', 'n', 'i', 't', 'y']
  | number => number.displayChars

def writeInt (value : Int) : List Char :=
  Binary64.signChars (value < 0) ++ Nat.toDigits 10 value.natAbs

def writeScalar : Scalar → List Char
  | .bool true => ['t', 'r', 'u', 'e']
  | .bool false => ['f', 'a', 'l', 's', 'e']
  | .int value => writeInt value
  | .real value => writeReal value
  | .text value => writeText value

def writeField (key : String) (value : Scalar) : List Char :=
  '\n' :: List.replicate 4 ' ' ++ writeText key ++ ':' :: ' ' :: writeScalar value

def writeFields : List (String × Scalar) → List Char
  | [] => []
  | [(key, value)] => writeField key value ++ ['\n']
  | (key, value) :: rest => writeField key value ++ ',' :: writeFields rest

def write (fields : List (String × Scalar)) : String :=
  String.ofList ('\x7b' :: writeFields fields ++ ['\x7d'])

def writeName (key : String) : List Char :=
  '\n' :: List.replicate 4 ' ' ++ writeText key ++ [':', ' ']

variable [Platform]

def canWrite : Scalar → Bool
  | .int value => isShort value
  | _ => true

/-- The fields up to the first that cannot be written, with its name. -/
def writeBegun : List (String × Scalar) → List Char
  | [] => []
  | (key, value) :: rest =>
      if canWrite value then writeField key value ++ ',' :: writeBegun rest else writeName key

/-- What is left of a document with a field that cannot be written. -/
def writeStart (fields : List (String × Scalar)) : String :=
  String.ofList ('\x7b' :: writeBegun fields)

end Json

end ScriptCatalog
