import ScriptCatalog.Check

/-! Named enumerations that arguments can be bound to. A name is bound to the nicknames of its
values in index order; registering it again replaces them. -/

namespace ScriptCatalog

structure EnumTypes where
  entries : List (Datum × List String)

namespace EnumTypes

variable [Platform]

/-- The nicknames that a name is bound to. Values that nothing can be looked up by are no names, and
no enumeration is found again by what is not a number. -/
def nicks? (types : EnumTypes) (name : Datum) : Except Fault (Option (List String)) := do
  name.expectHashable
  return if name.holdsNan then none else types.entries.lookup name

def contains (types : EnumTypes) (name : Datum) : Except Fault Bool :=
  return (← types.nicks? name).isSome

def nicks (types : EnumTypes) (name : Datum) : Except Fault (List String) := do
  match ← types.nicks? name with
  | some nicks => return nicks
  | none => throw (.unknownEnum name)

def indexOf (types : EnumTypes) (name nick : Datum) : Except Fault Nat := do
  let nicks ← types.nicks name
  match nicks.findIdx? (nick.equalsText ·) with
  | some index => return index
  | none => throw (.notEnumValue nick name nicks)

def register (types : EnumTypes) (name : Datum) (nicks : List String) :
    Except Fault EnumTypes := do
  if nicks.isEmpty then throw (.emptyEnum name)
  name.expectHashable
  return { entries := putField name nicks types.entries }

/-- The nicknames that going through a value gives. -/
def nicksOf (values : Datum) : Except Fault (List String) := do
  (← values.items).mapM Datum.written

/-- The paint modes, in the order that scripts count them. -/
def paintModes : List String := [
  "normal", "multiply", "screen", "overlay", "darken", "lighten", "color-dodge", "color-burn",
  "hard-light", "soft-light", "difference", "color", "luminosity", "hue", "saturation", "plus"]

def standard : EnumTypes := { entries := [(.text "PaintMode", paintModes)] }

end EnumTypes

end ScriptCatalog
