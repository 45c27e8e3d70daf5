/-! White space: the characters that separate words in any script, and the six among ASCII
that a number may be surrounded by. -/

namespace ScriptCatalog

def blankCodes : List Nat := [
  0x9, 0xa, 0xb, 0xc, 0xd, 0x1c, 0x1d, 0x1e, 0x1f, 0x20, 0x85, 0xa0, 0x1680, 0x2000, 0x2001,
  0x2002, 0x2003, 0x2004, 0x2005, 0x2006, 0x2007, 0x2008, 0x2009, 0x200a, 0x2028, 0x2029, 0x202f,
  0x205f, 0x3000]

def isBlank (c : Char) : Bool := blankCodes.contains c.toNat

def isAsciiBlank (c : Char) : Bool := c == ' ' || (9 ≤ c.toNat && c.toNat ≤ 13)

theorem isBlank_of_isAsciiBlank (c : Char) (blank : isAsciiBlank c = true) : isBlank c = true := by
  simp only [isAsciiBlank, Bool.or_eq_true, beq_iff_eq, Bool.and_eq_true,
    decide_eq_true_eq] at blank
  unfold isBlank
  rcases blank with rfl | ⟨lower, upper⟩
  · decide
  · have cases :
        c.toNat = 9 ∨ c.toNat = 10 ∨ c.toNat = 11 ∨ c.toNat = 12 ∨ c.toNat = 13 := by omega
    rcases cases with code | code | code | code | code <;> rw [code] <;> decide

end ScriptCatalog
