import ScriptCatalog.Number.Binary64

/-! Fixed-point text of a number: an optional sign, the integer part, and a chosen count of
decimal places, rounded to the nearest multiple of the last place with ties to the even one. -/

namespace ScriptCatalog

def padLeft (width : Nat) (digits : List Char) : List Char :=
  List.replicate (width - digits.length) '0' ++ digits

namespace Binary64

/-- The multiple of `10 ^ -places` nearest to a size. -/
def scaled (places size : Nat) : Nat := roundHalfEven (size * Nat.pow 10 places) unitsPerOne

/-- The digits of `value / 10 ^ places`. -/
def placedDigits (places value : Nat) : List Char :=
  Nat.toDigits 10 (value / Nat.pow 10 places) ++
    if places = 0 then []
    else '.' :: padLeft places (Nat.toDigits 10 (value % Nat.pow 10 places))

def signChars (negative : Bool) : List Char := if negative then ['-'] else []

/-- The text with `places` digits after the point. A negative number keeps its sign even where
all its digits round to zero. -/
def fixed (places : Nat) : Binary64 → List Char
  | nan => ['n', 'a', 'n']
  | infinite negative => signChars negative ++ ['i', 'n', 'f']
  | finite negative exponent fraction =>
      signChars negative ++ placedDigits places (scaled places (units exponent fraction))

end Binary64

end ScriptCatalog
