import ScriptCatalog.Text.Printable

/-! Text as a literal, the way messages show it inside lists and records: between single quotes,
or double quotes if the text holds single ones only, with escapes for whatever cannot be shown. -/

namespace ScriptCatalog

def hexDigits (width value : Nat) : List Char :=
  let digits := Nat.toDigits 16 value
  List.replicate (width - digits.length) '0' ++ digits

def literalMark (text : List Char) : Char :=
  if text.contains '\'' && !text.contains '"' then '"' else '\''

def literalChar (mark c : Char) : List Char :=
  if c == mark || c == '\\' then ['\\', c]
  else if c == '\n' then ['\\', 'n']
  else if c == '\r' then ['\\', 'r']
  else if c == '\t' then ['\\', 't']
  else if isPrintable c then [c]
  else if c.toNat ≤ 0xff then '\\' :: 'x' :: hexDigits 2 c.toNat
  else if c.toNat ≤ 0xffff then '\\' :: 'u' :: hexDigits 4 c.toNat
  else '\\' :: 'U' :: hexDigits 8 c.toNat

def literal (text : String) : String :=
  let mark := literalMark text.toList
  String.ofList (mark :: text.toList.flatMap (literalChar mark) ++ [mark])

end ScriptCatalog
