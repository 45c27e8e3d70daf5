import ScriptCatalog.Script.Command

/-! Binding the display, the image and the item that callers pass before a script's own
arguments. A display may come first; an image may come first or follow the display; and only
after an image may come a drawable, layer, channel or path. Each needs an argument of its type at
its place, and a reference of that type in the invocation. -/

namespace ScriptCatalog

namespace ArgKind

/-- The kind of reference that an item argument is bound to. -/
def hostKind? : ArgKind → Option HostKind
  | display => some .display
  | image => some .image
  | drawable => some .drawable
  | layer => some .layer
  | channel => some .channel
  | vectors => some .vectors
  | _ => none

end ArgKind

namespace Script

/-- The identifier that a value binds to an argument type, if it is a reference of that type. -/
def boundId? (kind : ArgKind) : Datum → Option Datum
  | .object passed id =>
      match kind.hostKind? with
      | some expected => if passed.isA expected then some id else none
      | none => none
  | _ => none

/-- Binds the value for an argument to it, if the argument is of the given type and the value a
reference of that type. -/
def bindArgument (invocation : Invocation) (kind : ArgKind) (index : Nat) : ScriptAct Bool := do
  if (← get).size ≤ index then return false
  if (← Act.ofExcept invocation.size) ≤ index + 1 then return false
  let (position, argument) ← argumentAt (.int index)
  if argument.kind ≠ kind then return false
  match boundId? kind (← Act.ofExcept (invocation.itemAt (index + 1))) with
  | none => return false
  | some id =>
      putArgument position (← Act.ofExcept (argument.assign (.payload (.itemId id))))
      return true

/-- Binds the first of several types that the argument and its value have. -/
def bindFirst (invocation : Invocation) (index : Nat) : List ArgKind → ScriptAct Bool
  | [] => return false
  | kind :: others => do
      if ← bindArgument invocation kind index then return true
      else bindFirst invocation index others

/-- What may follow an image, in the order it is tried. -/
def itemKinds : List ArgKind := [.drawable, .layer, .channel, .vectors]

/-- Binds the leading values of an invocation and counts them. That the script has no name is only
found out after that. -/
def bindStandard (invocation : Invocation) : ScriptAct Nat := do
  Act.require (!invocation.isNull) .absentObject
  let bound ← exclusively do
    let displays := if ← bindArgument invocation .display 0 then 1 else 0
    if ← bindArgument invocation .image displays then
      if ← bindFirst invocation (displays + 1) itemKinds then return displays + 2
      else return displays + 1
    else return displays
  let _ ← name
  return bound

end Script

end ScriptCatalog
