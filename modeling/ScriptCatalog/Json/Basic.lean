import ScriptCatalog.Number.Binary64

/-! Values of JSON documents. Integers and other numbers are told apart, and an object keeps its
fields in the order they were written. -/

namespace ScriptCatalog

inductive Json where
  | null
  | bool (value : Bool)
  | int (value : Int)
  | real (value : Binary64)
  | string (value : String)
  | array (items : List Json)
  | object (fields : List (String × Json))
  deriving Inhabited

/-- Stores a value under a key. A key that is there already is kept, at its place. -/
def putField {κ α : Type} [BEq κ] (key : κ) (value : α) : List (κ × α) → List (κ × α)
  | [] => [(key, value)]
  | (other, old) :: rest =>
      if other == key then (other, value) :: rest else (other, old) :: putField key value rest

def eraseField {κ α : Type} [BEq κ] (key : κ) : List (κ × α) → List (κ × α)
  | [] => []
  | (other, old) :: rest => if other == key then rest else (other, old) :: eraseField key rest

def hasField {κ α : Type} [BEq κ] (key : κ) (fields : List (κ × α)) : Bool :=
  fields.any fun (other, _) => other == key

namespace Json

mutual

/-- Whether two values are the same, with the fields of objects in the same order. -/
def same : Json → Json → Bool
  | null, null => true
  | bool value, bool other => value == other
  | int value, int other => value == other
  | real value, real other => value == other
  | string value, string other => value == other
  | array items, array others => sameItems items others
  | object fields, object others => sameFields fields others
  | _, _ => false

def sameItems : List Json → List Json → Bool
  | [], [] => true
  | item :: items, other :: others => same item other && sameItems items others
  | _, _ => false

def sameFields : List (String × Json) → List (String × Json) → Bool
  | [], [] => true
  | (key, value) :: fields, (otherKey, other) :: others =>
      key == otherKey && same value other && sameFields fields others
  | _, _ => false

end

mutual

theorem eq_of_same : ∀ {value other : Json}, same value other = true → value = other := by
  intro value other alike
  cases value with
  | null => cases other with
    | null => rfl
    | _ => cases alike
  | bool value => cases other with
    | bool other => exact congrArg bool (eq_of_beq alike)
    | _ => cases alike
  | int value => cases other with
    | int other => exact congrArg int (eq_of_beq alike)
    | _ => cases alike
  | real value => cases other with
    | real other => exact congrArg real (eq_of_beq alike)
    | _ => cases alike
  | string value => cases other with
    | string other => exact congrArg string (eq_of_beq alike)
    | _ => cases alike
  | array items => cases other with
    | array others => exact congrArg array (eq_of_sameItems alike)
    | _ => cases alike
  | object fields => cases other with
    | object others => exact congrArg object (eq_of_sameFields alike)
    | _ => cases alike

theorem eq_of_sameItems :
    ∀ {items others : List Json}, sameItems items others = true → items = others
  | [], [], _ => rfl
  | item :: items, other :: others, alike => by
      have ⟨first, rest⟩ := Bool.and_eq_true_iff.mp alike
      rw [eq_of_same first, eq_of_sameItems rest]

theorem eq_of_sameFields :
    ∀ {fields others : List (String × Json)}, sameFields fields others = true → fields = others
  | [], [], _ => rfl
  | (key, value) :: fields, (otherKey, other) :: others, alike => by
      have ⟨first, rest⟩ := Bool.and_eq_true_iff.mp alike
      have ⟨keys, values⟩ := Bool.and_eq_true_iff.mp first
      rw [eq_of_beq keys, eq_of_same values, eq_of_sameFields rest]

end

def field? (key : String) : Json → Option Json
  | object fields => fields.lookup key
  | _ => none

def hexDigit? (c : Char) : Option Nat :=
  if c.isDigit then some (c.toNat - '0'.toNat)
  else if 'a' ≤ c ∧ c ≤ 'f' then some (c.toNat - 'a'.toNat + 10)
  else if 'A' ≤ c ∧ c ≤ 'F' then some (c.toNat - 'A'.toNat + 10)
  else none

def hexNumber? (digits : List Char) : Option Nat :=
  digits.foldlM (fun value c => (hexDigit? c).map (16 * value + ·)) 0

end Json

end ScriptCatalog
