import ScriptCatalog.Procedure.Basic

/-! Building the procedure of a script. Its first parameter is the run mode. The first argument
of a type gives its parameter the name of the type, and later ones are numbered from two. -/

namespace ScriptCatalog

def leastInt : Int := -2147483648

def mostInt : Int := 2147483647

/-- The largest number, or its negative. -/
def extremeReal (negative : Bool) : Binary64 :=
  .finite negative (Fin.last 2046) ⟨4503599627370495, by decide⟩

def numbered (separator base : String) (count : Nat) : String :=
  if count = 1 then base else base ++ separator ++ toString count

/-- Names and nicknames for argument types that follow `before`, which holds the types so far. -/
def parameterNamesAfter (before : List ArgKind) : List ArgKind → List (String × String)
  | [] => []
  | kind :: rest =>
      let count := before.count kind + 1
      (numbered "-" kind.paramName count, numbered " " kind.paramNick count) ::
        parameterNamesAfter (kind :: before) rest

/-- A name and a nickname for each of several argument types, no two alike. -/
def uniqueParameterNames (kinds : List ArgKind) : List (String × String) :=
  parameterNamesAfter [] kinds

namespace ProcedureParameter

def plain (name nick : String) (blurb : Datum) (type : HostType) : ProcedureParameter :=
  { name, nick, blurb, type, default := none, minimum := none, maximum := none
    noneAllowed := false, unchecked := false }

def runMode : ProcedureParameter :=
  { plain "run-mode" "Run mode" (.text "The run mode") .runMode with default := some (.int 0) }

/-- The type of value that a host passes for an argument type. -/
def hostType : ArgKind → HostType
  | .image => .image
  | .drawable => .drawable
  | .layer => .layer
  | .channel => .channel
  | .vectors => .vectors
  | .display => .display
  | .color => .rgb
  | .toggle => .boolean
  | .value | .string | .text | .font | .palette | .pattern | .brush | .gradient => .string
  | .filename | .dirname => .string
  | .adjustment => .double
  | .option | .enum => .int

def ofArgument (argument : Argument) (name nick : String) : ProcedureParameter :=
  let base := plain name nick argument.label (hostType argument.kind)
  match argument.kind with
  | .image | .drawable | .layer | .channel | .vectors | .display =>
      { base with noneAllowed := true }
  | .toggle => { base with default := some (.bool false) }
  | .filename | .dirname => { base with unchecked := true }
  | .adjustment =>
      { base with
        default := some (.real .zero), minimum := some (.real (extremeReal true))
        maximum := some (.real (extremeReal false)) }
  | .option | .enum =>
      { base with
        default := some (.int 0), minimum := some (.int leastInt), maximum := some (.int mostInt) }
  | _ => base

end ProcedureParameter

namespace Procedure

/-- The procedure of a script that has the given label in menus. -/
def ofScript (kind : ProcedureKind) (profile : Profile) (menuLabel : Option Label)
    (arguments : List Argument) : Procedure :=
  { name := profile.name
    kind
    imageTypes := profile.imageTypes
    menuLabel
    blurb := profile.blurb
    help := none
    helpId := profile.name
    author := profile.author
    copyright := profile.copyright
    date := profile.date
    parameters := .runMode ::
      List.zipWith (fun argument (name, nick) => .ofArgument argument name nick) arguments
        (uniqueParameterNames (arguments.map (·.kind))) }

end Procedure

/-- Builds the procedure of a script. What stands before the label in it must be there before the
label is looked at. -/
def Script.procedure (kind : ProcedureKind) : ScriptAct Procedure := do
  let _ ← Script.name
  let _ ← Script.told (·.imageTypes)
  let label ← Script.shownLabel
  let profile ← Script.described
  return .ofScript kind profile label (← Script.arguments)

end ScriptCatalog
