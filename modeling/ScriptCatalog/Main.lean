import ScriptCatalog.Tool.Run

/-! The script tool as a program: it reads the files that the command line names, calls the tool,
writes the files that changed, and shows what the tool wrote. -/

namespace ScriptCatalog

namespace Main

/-- The places that a path leads through, from the folder that it starts from. -/
def placesOn (working : Place) (path : String) : List Place :=
  let start := Files.startOf working path
  let names := Files.namesIn path
  (List.range (names.length + 1)).map fun count => (names.take count).foldl Files.next start

/-- Takes up what is on disk at a place: a folder or a text file, or nothing that can be read. -/
def lookAt (files : Files) (place : Place) : IO Files := do
  let path := Files.pathOf place
  try
    let _ ← IO.FS.realPath (path ++ "/")
    return { files with folders := files.folders ++ [place] }
  catch _ =>
    try return files.put place (← IO.FS.readFile path)
    catch _ => return files

/-- The folder of settings in a user's home, which is made on first use. -/
def dataFolder (home : String) : IO Place := do
  let place := Files.namesIn home ++ [".local", "share", "ScriptFu"]
  try IO.FS.createDirAll (Files.pathOf place) catch _ => pure ()
  return place

def helpText : String :=
  "usage: script-tool [-h] [--list] [--describe NAME] [--command NAME] [--precision PRECISION]\n" ++
  "                   [--settings] [--config CONFIG] [-v] [script_file]\n"

/-- The files that a command line names. -/
def filesFor (options : ToolOptions) : IO Files := do
  let working := Files.namesIn (← IO.currentDir).toString
  let data ← dataFolder ((← IO.getEnv "HOME").getD "")
  let files := Files.make working data
  let settings := match Tool.settingsPath options files with
    | .text path => [path]
    | _ => []
  let paths := settings ++ options.scriptFile.toList
  (paths.flatMap (placesOn working)).foldlM lookAt files

def writeChanged (before after : Files) : IO Unit := do
  for (place, text) in after.entries do
    if before.textAt? place != some text then IO.FS.writeFile (Files.pathOf place) text

end Main

end ScriptCatalog

open ScriptCatalog in
def main (words : List String) : IO UInt32 := do
  match ToolOptions.ofWords words with
  | .error .help =>
      IO.print Main.helpText
      return 0
  | .error .misuse =>
      IO.eprint Main.helpText
      return 2
  | .ok options =>
      let files ← Main.filesFor options
      let report := Tool.call files words
      IO.print report.output
      IO.eprint report.complaints
      Main.writeChanged files report.files
      match report.outcome with
      | .ok code => return code.toUInt32
      | .error fault =>
          IO.eprintln fault.message
          return 1
