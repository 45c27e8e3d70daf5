import ScriptCatalog.Number.Rounding

/-! Binary floating-point numbers of 64 bits, as data. Every finite number is a whole multiple
of the smallest one, `2 ^ -1074`, so its size is kept as that multiple: comparison, truncation
and conversion are then arithmetic on integers, and nothing depends on machine floats. -/

namespace ScriptCatalog

inductive Binary64 where
  | nan
  | infinite (negative : Bool)
  | finite (negative : Bool) (exponent : Fin 2047) (fraction : Fin (Nat.pow 2 52))
  deriving DecidableEq

namespace Binary64

/-- How many of the smallest numbers make one. -/
def unitsPerOne : Nat := Nat.pow 2 1074

/-- The size of a finite number in units of the smallest one. -/
def units (exponent : Fin 2047) (fraction : Fin (Nat.pow 2 52)) : Nat :=
  if exponent.val = 0 then fraction.val
  else (Nat.pow 2 52 + fraction.val) * Nat.pow 2 (exponent.val - 1)

/-- The size of an infinity on the same scale, one step above the largest finite number. -/
def infiniteUnits : Nat := Nat.pow 2 2098

def signed (negative : Bool) (size : Nat) : Int := if negative then -size else size

/-- The number of a given rank among the non-negative ones, zero being the first. -/
def ofRank (negative : Bool) (rank : Nat) : Binary64 :=
  if bound : rank < 2047 * Nat.pow 2 52 then
    finite negative ⟨rank / Nat.pow 2 52, (Nat.div_lt_iff_lt_mul (by decide)).mpr bound⟩
      ⟨rank % Nat.pow 2 52, Nat.mod_lt rank (by decide)⟩
  else infinite negative

/-- The number nearest to `num / den`, the one with an even last bit on a tie. -/
def ofRatio (negative : Bool) (num den : Nat) : Binary64 :=
  let spare := (num * unitsPerOne / den).log2 - 52
  ofRank negative (roundHalfEven (num * unitsPerOne) (den * Nat.pow 2 spare) + spare * Nat.pow 2 52)

def zero : Binary64 := finite false 0 0

def one : Binary64 := ofRatio false 1 1

def ofNat (value : Nat) : Binary64 := ofRatio false value 1

/-- The number nearest to an integer, if it does not exceed the finite ones. -/
def ofInt? (value : Int) : Option Binary64 :=
  match ofRatio (value < 0) value.natAbs 1 with
  | infinite _ => none
  | number => some number

/-- The number nearest to `digits * 10 ^ exponent`. Exponents far outside the range of the
format are answered without raising ten to them. -/
def ofDecimal (negative : Bool) (digits : Nat) (exponent : Int) : Binary64 :=
  if digits = 0 then finite negative 0 0
  else if exponent + digits.log2 / 4 > 400 then infinite negative
  else if exponent + digits.log2 < -400 then finite negative 0 0
  else if exponent < 0 then ofRatio negative digits (Nat.pow 10 exponent.natAbs)
  else ofRatio negative (digits * Nat.pow 10 exponent.natAbs) 1

/-- Where a number stands on the number line, in units of the smallest one. -/
def position : Binary64 → Option Int
  | nan => none
  | infinite negative => some (signed negative infiniteUnits)
  | finite negative exponent fraction => some (signed negative (units exponent fraction))

/-- Numerical equality: the two zeros are equal, and nothing equals what is not a number. -/
def same (left right : Binary64) : Bool :=
  match left.position, right.position with
  | some x, some y => x == y
  | _, _ => false

def less (left right : Binary64) : Bool :=
  match left.position, right.position with
  | some x, some y => x < y
  | _, _ => false

def truncate? : Binary64 → Option Int
  | finite negative exponent fraction =>
      some (signed negative (units exponent fraction / unitsPerOne))
  | _ => none

/-- The integer that a whole number is. -/
def whole? : Binary64 → Option Int
  | finite negative exponent fraction =>
      if units exponent fraction % unitsPerOne = 0 then
        some (signed negative (units exponent fraction / unitsPerOne))
      else none
  | _ => none

end Binary64

end ScriptCatalog
