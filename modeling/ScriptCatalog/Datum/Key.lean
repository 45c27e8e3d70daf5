import ScriptCatalog.Datum.Display

/-! Which values count as equal where things are looked up by name, and which come before others.
Names can be values of almost any type: numbers are equal if they stand for the same number, truth
values count as numbers, and what is made of parts is equal if its parts are. Numbers are in order,
and so are texts. -/

namespace ScriptCatalog

/-- What equal values have in common and others have not. -/
inductive Key where
  | text (words : String)
  | other (shown : String)
  deriving DecidableEq

namespace Datum

mutual

/-- The text of a value, which is that of an equal one too. -/
def canonical : Datum → String
  | bool value => if value then "1" else "0"
  | real value => (value.whole?.map toString).getD value.display
  | tuple items => "(" ++ ", ".intercalate (canonicalItems items) ++ ",)"
  | object kind id => kind.name ++ "(" ++ canonical id ++ ")"
  | value => value.inner

def canonicalItems : List Datum → List String
  | [] => []
  | item :: rest => canonical item :: canonicalItems rest

end

def key : Datum → Key
  | text words => .text words
  | value => .other value.canonical

instance : BEq Datum := ⟨fun left right => left.key == right.key⟩

theorem beq_iff (left right : Datum) : (left == right) = true ↔ left.key = right.key :=
  beq_iff_eq (α := Key)

instance : EquivBEq Datum where
  rfl {datum} := (beq_iff datum datum).2 rfl
  symm {left right} same := (beq_iff right left).2 ((beq_iff left right).1 same).symm
  trans {first second third} left right :=
    (beq_iff first third).2 (((beq_iff first second).1 left).trans ((beq_iff second third).1 right))

theorem text_beq_text (left right : String) : (text left == text right) = (left == right) := by
  rw [Bool.eq_iff_iff, beq_iff]
  simp [key]

mutual

/-- Whether a value is or holds what is not a number. Such a value equals none that is made
elsewhere. -/
def holdsNan : Datum → Bool
  | real value => value == .nan
  | tuple items => anyHoldsNan items
  | object _ id => holdsNan id
  | _ => false

def anyHoldsNan : List Datum → Bool
  | [] => false
  | item :: rest => holdsNan item || anyHoldsNan rest

end

mutual

/-- The type for which nothing can be looked up by a value, if nothing can: its own, or that of a
part. -/
def unhashable? : Datum → Option TypeName
  | list _ => some .list
  | record _ => some .record
  | color _ => some .color
  | payload held => some (.payload held.kind)
  | tuple items => unhashableItem? items
  | object _ id => unhashable? id
  | _ => none

def unhashableItem? : List Datum → Option TypeName
  | [] => none
  | item :: rest =>
      match unhashable? item with
      | some type => some type
      | none => unhashableItem? rest

end

/-- Whether a value equals a text. A color equals each text that names it. -/
def equalsText [Platform] (word : String) : Datum → Bool
  | text words => words == word
  | color shade => Platform.colorOfText word == shade
  | _ => false

/-- Whether a value equals a small number. A color equals its code. -/
def equalsNat [Platform] (number : Nat) : Datum → Bool
  | int value => value == number
  | bool value => (if value then 1 else 0) == number
  | real value => value.whole? == some (number : Int)
  | color shade => Platform.colorOfCode number == shade
  | _ => false

/-- The number that a value is. Truth values are numbers here. -/
def number? : Datum → Option Scalar
  | bool value => some (.bool value)
  | int value => some (.int value)
  | real value => some (.real value)
  | _ => none

/-- Where a number stands on the number line, in units of the smallest one. -/
def position? : Datum → Option Int
  | bool value => some (if value then Binary64.unitsPerOne else 0)
  | int value => some (value * Binary64.unitsPerOne)
  | real value => value.position
  | _ => none

/-- Whether a value comes before another, if the two are in order at all. -/
def before? (left right : Datum) : Option Bool :=
  match left, right with
  | text left, text right => some (left < right)
  | left, right =>
      if left.number?.isSome && right.number?.isSome then
        match left.position?, right.position? with
        | some x, some y => some (x < y)
        | _, _ => some false
      else none

end Datum

end ScriptCatalog
