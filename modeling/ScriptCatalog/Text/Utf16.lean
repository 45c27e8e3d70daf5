/-! Texts as sequences of 16-bit units. A character beyond the first 65536 takes two units, a
surrogate pair. Where texts are passed on as units, a byte order mark in front is taken for what it
is: the mark itself is dropped, and one with its bytes exchanged has the bytes of every unit after
it exchanged too. -/

namespace ScriptCatalog

def isHighSurrogate (unit : Nat) : Bool := 0xd800 ≤ unit && unit < 0xdc00

def isLowSurrogate (unit : Nat) : Bool := 0xdc00 ≤ unit && unit < 0xe000

/-- The character that two halves of a surrogate pair stand for. -/
def joinSurrogates (high low : Nat) : Char :=
  Char.ofNat (0x10000 + (high - 0xd800) * 0x400 + (low - 0xdc00))

def isSingleUnit (c : Char) : Bool := c.toNat < 0x10000

def unitsOfChar (c : Char) : List Nat :=
  if isSingleUnit c then [c.toNat]
  else [0xd800 + (c.toNat - 0x10000) / 0x400, 0xdc00 + (c.toNat - 0x10000) % 0x400]

def unitsOfChars (text : List Char) : List Nat := text.flatMap unitsOfChar

/-- The character of a single unit. Half a surrogate pair on its own is shown as a question
mark. -/
def charOfUnit (unit : Nat) : Char :=
  if isHighSurrogate unit || isLowSurrogate unit then '?' else Char.ofNat unit

def charsOfUnits : List Nat → List Char
  | [] => []
  | [unit] => [charOfUnit unit]
  | unit :: next :: rest =>
      if isHighSurrogate unit && isLowSurrogate next then
        joinSurrogates unit next :: charsOfUnits rest
      else charOfUnit unit :: charsOfUnits (next :: rest)

def swapBytes (unit : Nat) : Nat := unit % 256 * 256 + unit / 256

/-- A text as the units that arrive where texts are passed on as units. An exchanged mark only
counts in a text of single units. -/
def passedUnits : List Char → List Nat
  | '\ufeff' :: rest => unitsOfChars rest
  | '\ufffe' :: rest =>
      if rest.all isSingleUnit then (unitsOfChars rest).map swapBytes
      else unitsOfChars ('\ufffe' :: rest)
  | text => unitsOfChars text

/-- A text as it is heard where texts are passed on as units. -/
def textOfPassedUnits (text : String) : String :=
  String.ofList (charsOfUnits (passedUnits text.toList))

theorem charCode_cases (c : Char) :
    c.toNat < 0xd800 ∨ 0xdfff < c.toNat ∧ c.toNat < 0x110000 := c.valid

/-- A character that is read back from its own units, whatever follows them. -/
theorem charsOfUnits_unitsOfChar_append (c : Char) (units : List Nat) :
    charsOfUnits (unitsOfChar c ++ units) = c :: charsOfUnits units := by
  have cases := charCode_cases c
  by_cases single : isSingleUnit c
  · have notHigh : isHighSurrogate c.toNat = false := by
      simp [isHighSurrogate]
      omega
    have notLow : isLowSurrogate c.toNat = false := by
      simp [isLowSurrogate]
      omega
    cases units <;> simp [unitsOfChar, single, charsOfUnits, charOfUnit, notHigh, notLow]
  · have large : 0x10000 ≤ c.toNat := by simpa [isSingleUnit] using single
    have high : isHighSurrogate (0xd800 + (c.toNat - 0x10000) / 0x400) = true := by
      simp [isHighSurrogate]
      omega
    have low : isLowSurrogate (0xdc00 + (c.toNat - 0x10000) % 0x400) = true := by
      simp [isLowSurrogate]
      omega
    have joined : 0x10000 + (c.toNat - 0x10000) / 0x400 * 0x400 + (c.toNat - 0x10000) % 0x400 =
        c.toNat := by omega
    simp [unitsOfChar, single, charsOfUnits, high, low, joinSurrogates, joined]

theorem charsOfUnits_unitsOfChars (text : List Char) :
    charsOfUnits (unitsOfChars text) = text := by
  induction text with
  | nil => rfl
  | cons c rest ih =>
      rw [unitsOfChars, List.flatMap_cons, charsOfUnits_unitsOfChar_append]
      exact congrArg (c :: ·) ih

theorem charsOfUnits_passedUnits (first : Char) (rest : List Char) (noMark : first ≠ '\ufeff')
    (noExchangedMark : first ≠ '\ufffe') :
    charsOfUnits (passedUnits (first :: rest)) = first :: rest := by
  have passed : passedUnits (first :: rest) = unitsOfChars (first :: rest) := by
    unfold passedUnits
    split <;> simp_all
  rw [passed, charsOfUnits_unitsOfChars]

end ScriptCatalog
