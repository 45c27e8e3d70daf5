import ScriptCatalog.Fault

/-! The text files that settings and scripts are kept in, and the folders around them. A path is
followed name by name, from the top folder if it starts with a slash and from the working folder
otherwise. What may stand in a path, and which fault comes first, are the rules of a file system:
each name but the last must lead to a folder. -/

namespace ScriptCatalog

/-- Where a file or a folder is: the names on the way to it from the top folder. -/
abbrev Place := List String

structure Files where
  entries : List (Place × String)
  folders : List Place
  /-- Files that can be read and not be written. -/
  locked : List Place
  /-- The folder that paths start from. -/
  working : Place
  /-- The folder of settings that are kept at no path in particular. -/
  data : Place

/-- What a path leads to: a folder, or a name in a folder, under which there may be a file or a
folder or nothing yet. A slash after the name asks for a folder. -/
inductive Target where
  | folder
  | name (place : Place) (slashed : Bool)

namespace Files

/-- The place that takes whatever is written and keeps nothing. -/
def nullPlace : Place := ["dev", "null"]

def make (working data : Place) : Files :=
  { entries := [], folders := [working, data, nullPlace.dropLast], locked := [], working, data }

def empty : Files := make ["work"] ["data"]

/-- The top folder is always there, and so are the folders around one that is there. -/
def isFolder (files : Files) (place : Place) : Bool :=
  place.isEmpty || files.folders.any place.isPrefixOf

def textAt? (files : Files) (place : Place) : Option String :=
  if place = nullPlace then some "" else files.entries.lookup place

def put (place : Place) (text : String) (files : Files) : Files :=
  if place = nullPlace then files else { files with entries := putField place text files.entries }

/-- The longest name, and the longest path, in bytes. -/
def mostNameBytes : Nat := 255

def mostPathBytes : Nat := 4095

def isTooLong (name : String) : Bool := mostNameBytes < name.utf8ByteSize

/-- Names that lead to a folder without one of its own: the folder itself and the one around it. -/
def isRelativeName (name : String) : Bool := name == "." || name == ".."

def next (place : Place) (name : String) : Place :=
  if name == "." then place
  else if name == ".." then place.dropLast
  else place ++ [name]

def enter (files : Files) (path : String) (place : Place) (name : String) : Except Fault Place :=
  let place := next place name
  if isTooLong name then .error (.nameTooLong path)
  else if files.isFolder place then .ok place
  else if (files.textAt? place).isSome then .error (.notFolder path)
  else .error (.noFile path)

def expectPath (path : String) : Except Fault Unit := do
  if path.contains '\x00' then throw .nullInPath
  if mostPathBytes < path.utf8ByteSize then throw (.nameTooLong path)
  if path.isEmpty then throw (.noFile path)

/-- The names in a path. Slashes next to each other count as one. -/
def namesIn (path : String) : List String :=
  ((path.toList.splitOn '/').filter (!·.isEmpty)).map String.ofList

def startOf (working : Place) (path : String) : Place :=
  if path.startsWith '/' then [] else working

def target (files : Files) (path : String) : Except Fault Target := do
  expectPath path
  let names := namesIn path
  match names.getLast? with
  | none => return .folder
  | some last =>
      let place ← names.dropLast.foldlM (files.enter path) (startOf files.working path)
      if isRelativeName last then return .folder
      else return .name (place ++ [last]) (path.endsWith '/')

/-- Every kind of line end read as a line feed. -/
def unifyLines : List Char → List Char
  | [] => []
  | '\r' :: '\n' :: rest => '\n' :: unifyLines rest
  | '\r' :: rest => '\n' :: unifyLines rest
  | c :: rest => c :: unifyLines rest

def expectName (path : String) (place : Place) : Except Fault Unit :=
  if (place.getLast?.map isTooLong).getD false then .error (.nameTooLong path) else .ok ()

def read (files : Files) (path : String) : Except Fault String := do
  match ← files.target path with
  | .folder => throw (.isFolder path)
  | .name place slashed =>
      expectName path place
      if files.isFolder place then throw (.isFolder path)
      match files.textAt? place with
      | none => throw (.noFile path)
      | some text =>
          if slashed then throw (.notFolder path)
          return String.ofList (unifyLines text.toList)

/-- Writes a text file. The folder it is in must be there, and the file must not be locked. -/
def write (path text : String) (files : Files) : Except Fault Files := do
  match ← files.target path with
  | .folder => throw (.isFolder path)
  | .name place slashed =>
      if slashed then throw (.isFolder path)
      expectName path place
      if files.isFolder place then throw (.isFolder path)
      if files.locked.contains place then throw (.notAllowed path)
      return files.put place text

/-- Whether a path leads to a file that keeps what is written. -/
def contains (files : Files) (path : String) : Bool :=
  match files.target path with
  | .ok (.name place false) => place ≠ nullPlace && (files.textAt? place).isSome
  | _ => false

def pathOf (place : Place) : String := "/" ++ "/".intercalate place

def standardPath (files : Files) : String := pathOf (files.data ++ ["script_fu_config.json"])

end Files

end ScriptCatalog
