import ScriptCatalog.Number.Fixed

/-! Shortest decimal text: the fewest significant digits that read back as the same number, and
of the texts of that length the one nearest to it. -/

namespace ScriptCatalog

/-- The number `digits * 10 ^ exponent`. -/
structure Decimal where
  digits : Nat
  exponent : Int
  deriving DecidableEq

namespace Binary64

/-- How many digits a positive size has before the decimal point; zero or less for a size
below one tenth. -/
def pointPlace (size : Nat) : Int :=
  ((Nat.toDigits 10 (size * Nat.pow 10 330 / unitsPerOne)).length : Int) - 330

/-- The two neighbours of a quotient among the integers, the nearer first and the even one
first on a tie. -/
def neighbours (num den : Nat) : List Nat :=
  if roundHalfEven num den = num / den then [num / den, num / den + 1]
  else [num / den + 1, num / den]

/-- The decimals of `count` significant digits on either side of a size. -/
def candidates (size count : Nat) : List Decimal :=
  let exponent := pointPlace size - count
  let around :=
    if exponent < 0 then neighbours (size * Nat.pow 10 exponent.natAbs) unitsPerOne
    else neighbours size (unitsPerOne * Nat.pow 10 exponent.natAbs)
  around.map fun digits => { digits, exponent }

def readsBack (size : Nat) (decimal : Decimal) : Bool :=
  match ofDecimal false decimal.digits decimal.exponent with
  | finite _ exponent fraction => units exponent fraction == size
  | _ => false

/-- Every number is a decimal of at most 1074 places, which stands in should no short one do. -/
def shortest (size : Nat) : Decimal :=
  ((List.range 17).findSome? fun count => (candidates size (count + 1)).find? (readsBack size)).getD
    { digits := size * Nat.pow 5 1074, exponent := -1074 }

def dropTrailingZeros (digits : List Char) : List Char :=
  (digits.reverse.dropWhile (· == '0')).reverse

/-- The exponent part: a sign and at least two digits. -/
def exponentChars (exponent : Int) : List Char :=
  'e' :: (if exponent < 0 then '-' else '+') :: padLeft 2 (Nat.toDigits 10 exponent.natAbs)

/-- The text of the digits `d₁d₂…`, read as `0.d₁d₂… * 10 ^ point`: positional from `10 ^ -4`
up to `10 ^ 16` and then always with a point, and with an exponent outside. -/
def layout (digits : List Char) (point : Int) : List Char :=
  if -4 < point ∧ point ≤ 16 then
    if point ≤ 0 then '0' :: '.' :: List.replicate point.natAbs '0' ++ digits
    else if digits.length ≤ point.natAbs then
      digits ++ List.replicate (point.natAbs - digits.length) '0' ++ ['.', '0']
    else digits.take point.natAbs ++ '.' :: digits.drop point.natAbs
  else
    match digits with
    | [] => []
    | [only] => only :: exponentChars (point - 1)
    | first :: rest => first :: '.' :: rest ++ exponentChars (point - 1)

def shortestChars (size : Nat) : List Char :=
  if size = 0 then ['0', '.', '0']
  else
    let digits := Nat.toDigits 10 (shortest size).digits
    layout (dropTrailingZeros digits) (digits.length + (shortest size).exponent)

def displayChars : Binary64 → List Char
  | nan => ['n', 'a', 'n']
  | infinite negative => signChars negative ++ ['i', 'n', 'f']
  | finite negative exponent fraction =>
      signChars negative ++ shortestChars (units exponent fraction)

def display (number : Binary64) : String := String.ofList number.displayChars

end Binary64

end ScriptCatalog
