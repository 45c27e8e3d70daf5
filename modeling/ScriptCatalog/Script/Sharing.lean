import ScriptCatalog.Script.Basic

/-! Resetting where arguments share payloads. A payload that is assigned can be kept elsewhere too,
be it as another value or as a default, and is one object at all of these places: what is released
at one of them is released at each. -/

namespace ScriptCatalog

/-- Where a script keeps a payload: as the default or as the value of the argument in a slot. -/
inductive PayloadPlace where
  | default (slot : Nat)
  | value (slot : Nat)
  deriving DecidableEq

/-- The object that a place keeps, if other places keep it too. Objects that own neither texts nor
lists need not be told apart, as nothing of them is released. -/
abbrev Objects := PayloadPlace → Option Nat

namespace Objects

/-- Every place keeps an object of its own. -/
def separate : Objects := fun _ => none

/-- The value in a slot is the object that its default is. -/
def sharedDefault (slot : Nat) : Objects := fun place =>
  if place = .value slot ∨ place = .default slot then some 0 else none

/-- The values in two slots are one object. -/
def sharedValues (slot other : Nat) : Objects := fun place =>
  if place = .value slot ∨ place = .value other then some 0 else none

/-- Whether two places keep the same object. -/
def together (objects : Objects) (place other : PayloadPlace) : Bool :=
  place == other || ((objects place).isSome && objects place == objects other)

/-- The objects once a place keeps a new one. -/
def renew (place : PayloadPlace) (objects : Objects) : Objects :=
  fun other => if other = place then none else objects other

end Objects

variable [Platform]

/-- The argument in a slot once the object that a place keeps was released. -/
def Argument.releasedAt (objects : Objects) (place : PayloadPlace) (slot : Nat)
    (argument : Argument) : Argument :=
  { argument with
    default :=
      if objects.together place (.default slot) then argument.default.release
      else argument.default
    value :=
      if objects.together place (.value slot) then argument.value.release
      else argument.value }

namespace Script

/-- Releases the object that a place keeps, wherever else it is kept. -/
def releaseAt (objects : Objects) (place : PayloadPlace) (slots : List (Option Argument)) :
    List (Option Argument) :=
  slots.mapIdx fun slot held => held.map (Argument.releasedAt objects place slot)

/-- Restores the defaults of the arguments in several slots, up to the first that cannot be copied.
A default is copied as the release of the value before it has left it. -/
def resetSlots (types : EnumTypes) (resetIds : Bool) :
    Objects → List Nat → List (Option Argument) → Except Fault Unit × List (Option Argument)
  | _, [], slots => (.ok (), slots)
  | objects, slot :: later, slots =>
      match slots[slot]? with
      | some (some argument) =>
          if argument.kind.isItem && !resetIds then resetSlots types resetIds objects later slots
          else
            let released := releaseAt objects (.value slot) slots
            let argument := argument.releasedAt objects (.value slot) slot
            match argument.default.copy types with
            | .ok value =>
                resetSlots types resetIds (objects.renew (.value slot)) later
                  (released.set slot (some { argument with value }))
            | .error fault => (.error fault, released)
      | _ => resetSlots types resetIds objects later slots

/-- Restores the defaults of one argument after the other. -/
def resetInTurn (objects : Objects) (types : EnumTypes) (resetIds : Bool) : ScriptAct Unit := do
  let slots := (← get).slots
  let (outcome, changed) := resetSlots types resetIds objects (List.range slots.length) slots
  modify (setSlots changed)
  Act.ofExcept outcome

/-- Restores the defaults of all arguments, where payloads are the given objects. -/
def resetAmong (objects : Objects) (types : EnumTypes) (resetIds : Bool) : ScriptAct Unit :=
  exclusively do
    let _ ← arguments
    resetInTurn objects types resetIds

end Script

end ScriptCatalog
