import ScriptCatalog.Datum.Key
import ScriptCatalog.Fault

/-! Checks that values have an expected type, can be compared with numbers, or are an index into a
list. -/

namespace ScriptCatalog

namespace Datum

def hasType (value : Datum) (expected : List TypeName) : Bool :=
  expected.any value.typeName.isA

def expectType (value : Datum) (expected : List TypeName) : Except Fault Unit :=
  if value.hasType expected then .ok () else .error (.unexpectedType expected value)

/-- The items that going through a value gives. -/
def items (value : Datum) : Except Fault (List Datum) :=
  match value.items? with
  | some items => .ok items
  | none => .error (.notIterable value.typeName)

/-- How many characters, items or fields a value has. -/
def size : Datum → Except Fault Nat
  | text words => .ok words.length
  | list items => .ok items.length
  | tuple items => .ok items.length
  | record fields => .ok fields.length
  | other => .error (.notSized other.typeName)

/-- The items of a value that can be told apart by position. The fields of a record cannot: asking
for the one at a position fails for that position. -/
def itemsByPosition (asked : Nat) : Datum → Except Fault (List Datum)
  | record _ => .error (.noPosition asked)
  | value => value.items

def itemAt (value : Datum) (index : Nat) : Except Fault Datum := do
  match (← value.itemsByPosition index)[index]? with
  | some item => return item
  | none => throw .noSuchArgument

def expectHashable (value : Datum) : Except Fault Unit :=
  match value.unhashable? with
  | none => .ok ()
  | some type => .error (.unhashable type)

def expectTypes (values : Datum) (expected : List TypeName) : Except Fault Unit := do
  (← values.items).forM (·.expectType expected)

/-- The items of a list that holds nothing but texts, the first of which has the given index. -/
def expectTexts : Nat → List Datum → Except Fault (List String)
  | _, [] => .ok []
  | index, .text words :: rest => return words :: (← expectTexts (index + 1) rest)
  | index, other :: _ => .error (.notTextItem index other.typeName)

def isCount : Datum → Except Fault Bool
  | int value => .ok (0 ≤ value)
  | bool _ => .ok true
  | real value => .ok (value.position.any (0 ≤ ·))
  | value => .error (.notOrdered ">=" value.typeName .int)

/-- Whether a number is neither negative nor at or above a size. -/
def isBelow (size : Nat) : Datum → Except Fault Bool
  | int value => .ok (0 ≤ value && value < size)
  | bool value => .ok ((if value then 1 else 0) < size)
  | real value =>
      .ok (value.position.any fun (place : Int) => 0 ≤ place && place < size * Binary64.unitsPerOne)
  | color _ => .error (.notOrdered ">=" .color .int)
  | value => .error (.notOrdered "<=" .int value.typeName)

def expectOrdered : List Datum → Except Fault Unit
  | first :: second :: rest => do
      if (second.before? first).isNone then
        throw (.notOrdered "<" second.typeName first.typeName)
      expectOrdered (second :: rest)
  | _ => .ok ()

/-- The place that a value asks for in a list. -/
def place : Datum → Except Fault Int
  | int value => .ok value
  | bool value => .ok (if value then 1 else 0)
  | value => .error (.notPosition value.typeName)

/-- An index, which is an integer and not a truth value. -/
def index : Datum → Except Fault Int
  | int value => .ok value
  | value => .error (.indexNotInt value)

end Datum

/-- Checks an index against a size. `last` is the largest size that is not an index. -/
def expectInside (index : Int) (size last : Nat) : Except Fault Nat :=
  if 0 ≤ index ∧ index < last then .ok index.toNat else .error (.indexOutside index size)

/-- Checks that a value is an index into a list, whose end counts too if `allowEnd` holds. -/
def expectIndex (index list : Datum) (allowEnd : Bool) : Except Fault Nat := do
  let position ← index.index
  match list with
  | .list items => expectInside position items.length (items.length + if allowEnd then 1 else 0)
  | other => .error (.notList other)

theorem expectInside_eq_ok_iff (index : Int) (size last position : Nat) :
    expectInside index size last = .ok position ↔ index = position ∧ position < last := by
  unfold expectInside
  split
  · constructor
    · rintro equal
      injection equal with equal
      omega
    · rintro ⟨rfl, bound⟩
      simp
  · constructor
    · rintro ⟨⟩
    · omega

end ScriptCatalog
