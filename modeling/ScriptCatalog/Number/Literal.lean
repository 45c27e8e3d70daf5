import ScriptCatalog.Number.Binary64
import ScriptCatalog.Text.Blank
import ScriptCatalog.Text.DecimalDigit

/-! Numbers written as text. Blanks around a number are skipped, digits of every script count as
digits, and single underscores may stand between digits. -/

namespace ScriptCatalog

/-- Text beyond ASCII with its blanks and digits replaced by those of ASCII; nothing else beyond
ASCII can stand in a number. -/
def asciiNumeral (text : List Char) : Option (List Char) :=
  if text.all (·.toNat < 0x80) then some text
  else text.mapM fun c =>
    if c.toNat < 0x80 then some c
    else if isBlank c then some ' '
    else (decimalDigit? c).map Nat.digitChar

def trimBlanks (text : List Char) : List Char :=
  ((text.dropWhile isAsciiBlank).reverse.dropWhile isAsciiBlank).reverse

/-- Drops underscores, each of which must stand between two digits. -/
def dropUnderscores (previous : Char) : List Char → Option (List Char)
  | [] => if previous == '_' then none else some []
  | '_' :: rest => if previous.isDigit then dropUnderscores '_' rest else none
  | c :: rest =>
      if previous == '_' && !c.isDigit then none
      else (dropUnderscores c rest).map (c :: ·)

def splitSign : List Char → Bool × List Char
  | '-' :: rest => (true, rest)
  | '+' :: rest => (false, rest)
  | text => (false, text)

def readNat? (digits : List Char) : Option Nat :=
  if !digits.isEmpty && digits.all Char.isDigit then some (Nat.ofDigitChars 10 digits 0) else none

/-- The text that a number is read from. -/
def numeral? (text : String) : Option (Bool × List Char) := do
  let plain ← asciiNumeral text.toList
  let joined ← dropUnderscores ' ' (trimBlanks plain)
  return splitSign joined

def readInt? (text : String) : Option Int := do
  let (negative, digits) ← numeral? text
  let size ← readNat? digits
  return if negative then -size else size

/-- How many digits a text has that a number is read from. -/
def countDigits (text : String) : Nat := (numeral? text).elim 0 fun (_, digits) => digits.length

/-- The number with the given digits before and after its point. -/
def Binary64.ofDigits (negative : Bool) (whole part : List Char) (exponent : Int) : Binary64 :=
  ofDecimal negative (Nat.ofDigitChars 10 (whole ++ part) 0) (exponent - part.length)

def readExponent? : List Char → Option Int
  | [] => some 0
  | c :: rest =>
      if c == 'e' || c == 'E' then
        let (negative, digits) := splitSign rest
        (readNat? digits).map fun size => if negative then -size else size
      else none

def readDecimal? (negative : Bool) (text : List Char) : Option Binary64 :=
  let whole := text.takeWhile Char.isDigit
  let rest := text.dropWhile Char.isDigit
  let part := if rest.head? == some '.' then rest.tail.takeWhile Char.isDigit else []
  let after := if rest.head? == some '.' then rest.tail.dropWhile Char.isDigit else rest
  if whole.isEmpty && part.isEmpty then none
  else (readExponent? after).map (Binary64.ofDigits negative whole part)

def readBinary64? (text : String) : Option Binary64 := do
  let (negative, body) ← numeral? text
  let word := String.ofList (body.map Char.toLower)
  if word == "inf" || word == "infinity" then return .infinite negative
  else if word == "nan" then return .nan
  else readDecimal? negative body

end ScriptCatalog
