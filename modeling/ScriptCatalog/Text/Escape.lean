/-! Quoted text inside commands. A backslash is put before each of seven characters, and the text
is placed between double quotes. Reading a quoted text takes the character after a backslash as
it is and stops at the first double quote without one. -/

namespace ScriptCatalog

def escapedCharacters : List Char := ['\x08', '\x0c', '\n', '\r', '\t', '\\', '"']

def needsEscape (c : Char) : Bool := escapedCharacters.contains c

def escapeChars : List Char → List Char
  | [] => []
  | c :: rest => if needsEscape c then '\\' :: c :: escapeChars rest else c :: escapeChars rest

def quoteChars (text : List Char) : List Char := '"' :: escapeChars text ++ ['"']

def escape (text : String) : String := String.ofList (escapeChars text.toList)

/-- Missing text is quoted as the empty text. -/
def quote (text : Option String) : String := String.ofList (quoteChars (text.getD "").toList)

/-- Reads up to and past the double quote that closes a text, giving the text and what follows. -/
def readQuotedTail : List Char → Option (List Char × List Char)
  | [] => none
  | '"' :: rest => some ([], rest)
  | '\\' :: [] => none
  | '\\' :: c :: rest => (readQuotedTail rest).map fun (text, after) => (c :: text, after)
  | c :: rest => (readQuotedTail rest).map fun (text, after) => (c :: text, after)

def readQuoted : List Char → Option (List Char × List Char)
  | '"' :: rest => readQuotedTail rest
  | _ => none

theorem escapeChars_append (left right : List Char) :
    escapeChars (left ++ right) = escapeChars left ++ escapeChars right := by
  induction left with
  | nil => rfl
  | cons c rest ih => by_cases needed : needsEscape c <;> simp [escapeChars, needed, ih]

end ScriptCatalog
