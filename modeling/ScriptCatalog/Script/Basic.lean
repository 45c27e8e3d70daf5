import ScriptCatalog.Argument.Basic
import ScriptCatalog.Label

/-! A script: what it says about itself, and its arguments in order. Argument values are shared
between runs, so whatever reads or changes them holds the script for itself meanwhile, and fails
at once if the script is held already. A destroyed script keeps nothing and can do nothing. What a
script says about itself are texts if it was registered, and can be anything otherwise. -/

namespace ScriptCatalog

variable [Platform]

structure Profile where
  name : Datum
  menuLabel : Label
  blurb : Datum
  author : Datum
  copyright : Datum
  date : Datum
  imageTypes : Datum

namespace Profile

/-- What a profile says, by name. -/
def parts : List (String × (Profile → Datum)) := [
  ("name", name), ("menu_label", menuLabel), ("blurb", blurb), ("author", author),
  ("copyright", copyright), ("date", date), ("image_types", imageTypes)]

def fields (profile : Profile) : List (String × Datum) :=
  parts.map fun (name, part) => (name, part profile)

end Profile

/-- A script in use. A slot that was never filled holds no argument. -/
structure LiveScript where
  profile : Profile
  slots : List (Option Argument)
  held : Bool

inductive Script where
  | destroyed
  | live (script : LiveScript)

abbrev ScriptAct (α : Type) := Act Script α

namespace Script

/-- The sizes from which on numbers cannot count or index the items of a list, and from which on no
list has room. -/
def indexLimit : Int := Nat.pow 2 63

def roomLimit : Int := Nat.pow 2 24

def slotCount : Datum → Except Fault Int
  | .real _ => .error .countNotWhole
  | count => count.place

/-- A script with slots still to be filled. -/
def make (profile : Profile) (count : Datum) : Except Fault Script := do
  if !(← count.isCount) then throw (.negativeCount profile.name count)
  let size ← slotCount count
  if indexLimit ≤ size then throw .countTooLarge
  if roomLimit ≤ size then throw .countBeyondMemory
  return live { profile, slots := List.replicate size.toNat none, held := false }

/-- A script with all its arguments. -/
def ofArguments (profile : Profile) (arguments : List Argument) : Script :=
  live { profile, slots := arguments.map some, held := false }

def slots : Script → List (Option Argument)
  | destroyed => []
  | live script => script.slots

def isDestroyed : Script → Bool
  | destroyed => true
  | live _ => false

def isHeld : Script → Bool
  | destroyed => false
  | live script => script.held

def size (script : Script) : Nat := script.slots.length

def setSlots (slots : List (Option Argument)) : Script → Script
  | destroyed => destroyed
  | live script => live { script with slots }

/-- Gives the script back after it was held. -/
def letGo : Script → Script
  | destroyed => destroyed
  | live script => live { script with held := false }

/-- The script, which must not be destroyed. -/
def alive : ScriptAct LiveScript := do
  match ← get with
  | destroyed => throw .destroyedScript
  | live script => return script

def profile : ScriptAct Profile := return (← alive).profile

/-- Something that a script says about itself, which must be there. -/
def told (part : Profile → Datum) : ScriptAct Datum := do
  let said := part (← profile)
  Act.require (!said.isNull) .absentObject
  return said

def name : ScriptAct Datum := told (·.name)

/-- All that a script says about itself, none of which may be missing. -/
def described : ScriptAct Profile := do
  let profile ← profile
  Act.require (profile.fields.all fun (_, said) => !said.isNull) .absentObject
  return profile

def property (field : String) : ScriptAct Datum := do
  match field with
  | "n_args" => return .int (← get).size
  | "is_destroyed" => return .bool (← get).isDestroyed
  | field =>
      match Profile.parts.lookup field with
      | some part => told part
      | none => throw (.noScriptAttribute field)

/-- Takes the script, which must not be held already. -/
def acquire : ScriptAct Unit := do
  let script ← alive
  if script.held then throw (.concurrentAccess script.profile.name)
  set (live { script with held := true })

/-- Runs an action that has the script for itself. -/
def exclusively {α : Type} (act : ScriptAct α) : ScriptAct α := do
  acquire
  act.ensuring letGo

def firstUndefined (slots : List (Option Argument)) : Option Nat :=
  slots.findIdx? Option.isNone

/-- The arguments in order, all of which must have been defined. -/
def arguments : ScriptAct (List Argument) := do
  let script ← alive
  match firstUndefined script.slots with
  | some index => throw (.undefinedArgument script.profile.name (.int index))
  | none => return script.slots.filterMap id

/-- The position that an index counts to. A negative one counts from the end. -/
def position? (size : Nat) (index : Int) : Option Nat :=
  if 0 ≤ index ∧ index < size then some index.toNat
  else if index < 0 ∧ 0 ≤ index + size then some (index + size).toNat
  else none

def argumentAt (index : Datum) : ScriptAct (Nat × Argument) := do
  let script ← alive
  let place ← Act.ofExcept index.place
  if place < -indexLimit ∨ indexLimit ≤ place then throw .indexTooLarge
  match position? script.slots.length place with
  | none => throw .noSuchArgument
  | some position =>
      match script.slots[position]? with
      | some (some argument) => return (position, argument)
      | _ => throw (.undefinedArgument script.profile.name index)

def argument (index : Datum) : ScriptAct Argument := return (← argumentAt index).2

def putArgument (position : Nat) (argument : Argument) : ScriptAct Unit :=
  modify fun script => script.setSlots (script.slots.set position (some argument))

def onArgument {α : Type} (index : Datum) (act : Act Argument α) : ScriptAct α := do
  let (position, argument) ← argumentAt index
  match act argument with
  | .ok value changed => putArgument position changed; return value
  | .error fault changed => putArgument position changed; throw fault

/-- Replaces the argument at an index and gives its new value. -/
def replaceArgument (index : Datum) (change : Argument → Except Fault Argument) :
    ScriptAct Payload :=
  onArgument index do
    let changed ← Act.ofExcept (change (← get))
    set changed
    return changed.value

def assign (index value : Datum) : ScriptAct Payload :=
  replaceArgument index (·.assign value)

def setFromParam (types : EnumTypes) (index param : Datum) : ScriptAct Payload :=
  replaceArgument index (·.setFromParam types param)

def define (index : Datum) (argument : Argument) : ScriptAct Unit := do
  let script ← alive
  if ← Act.ofExcept (index.isBelow script.slots.length) then
    putArgument (← Act.ofExcept index.place).toNat argument
  else throw (.noSuchSlot script.profile.name index)

/-- Runs an action on every argument in order, up to the first that fails. -/
def eachArgument (act : Nat → Act Argument Unit) :
    Nat → List (Option Argument) → Except Fault Unit × List (Option Argument)
  | _, [] => (.ok (), [])
  | index, none :: rest =>
      let (outcome, changed) := eachArgument act (index + 1) rest
      (outcome, none :: changed)
  | index, some argument :: rest =>
      match act index argument with
      | .ok _ changed =>
          let (outcome, others) := eachArgument act (index + 1) rest
          (outcome, some changed :: others)
      | .error fault changed => (.error fault, some changed :: rest)

def forArguments (act : Nat → Act Argument Unit) : ScriptAct Unit := do
  let (outcome, changed) := eachArgument act 0 (← get).slots
  modify (setSlots changed)
  Act.ofExcept outcome

/-- Restores the defaults of all arguments, those of items only if `resetIds` holds. -/
def reset (types : EnumTypes) (resetIds : Bool) : ScriptAct Unit :=
  exclusively do
    let _ ← arguments
    forArguments fun _ => Argument.reset types resetIds

def destroy : ScriptAct Unit := exclusively (set destroyed)

def title : ScriptAct String := do Act.ofExcept (Label.title (← told (·.menuLabel)))

/-- The label under which the script is added to menus, if it is added to any. -/
def shownLabel : ScriptAct (Option Label) := do
  Act.ofExcept (Label.shown (← told (·.menuLabel)))

end Script

end ScriptCatalog
