import ScriptCatalog.Text.Mnemonic

/-! Titles of menu labels: the label without mnemonic markers, of a menu path the last part, and
without an ellipsis at the end. -/

namespace ScriptCatalog

/-- Splits a text at the first place where `mark` stands, leaving the mark out. -/
def splitAtFirst (mark : List Char) : List Char → Option (List Char × List Char)
  | [] => if mark.isEmpty then some ([], []) else none
  | c :: rest =>
      if mark.isPrefixOf (c :: rest) then some ([], (c :: rest).drop mark.length)
      else (splitAtFirst mark rest).map fun (before, after) => (c :: before, after)

def periods : List Char := ['.', '.', '.']

def ellipsisSign : List Char := ['…']

/-- Only the first ellipsis of a title is looked at: three periods if there are any, and
otherwise the ellipsis sign. It is removed if it ends the title. -/
def stripEllipsisChars (title : List Char) : List Char :=
  match splitAtFirst periods title with
  | some (before, after) => if after.isEmpty then before else title
  | none =>
      match splitAtFirst ellipsisSign title with
      | some (before, after) => if after.isEmpty then before else title
      | none => title

def stripEllipsis (title : String) : String := String.ofList (stripEllipsisChars title.toList)

def afterLastSlash (path : List Char) : List Char := (path.reverse.takeWhile (· != '/')).reverse

/-- The last part of a menu path. A label is a menu path if it starts with `<`; one that holds no
`/`, or ends in one, is kept whole. -/
def lastPathPart (label : List Char) : List Char :=
  if label.head? == some '<' && label.contains '/' && !(afterLastSlash label).isEmpty then
    afterLastSlash label
  else label

/-- The title of a label that has no markers any more. -/
def plainTitleChars (label : List Char) : List Char := stripEllipsisChars (lastPathPart label)

def titleChars (label : List Char) : List Char := plainTitleChars (stripMnemonicChars label)

end ScriptCatalog
