/-! Mnemonic markers in menu labels. One underscore marks the next character as the mnemonic, two
stand for an underscore, and a marker in brackets of its own, as in `(_F)`, is left out with its
brackets. Labels are read unit by unit; the units of a text are its characters. -/

namespace ScriptCatalog

/-- What the units of a label are to a reader of markers. -/
structure LabelUnits (α : Type) where
  /-- Whether a unit counts as a character. -/
  counts : Char → α → Bool
  /-- The unit that two underscores stand for. -/
  underscore : α

namespace LabelUnits

def characters : LabelUnits Char := { counts := fun c unit => unit == c, underscore := '_' }

variable {α : Type}

/-- Reads a label from the front. `kept` holds what was kept so far, last unit first, and `bracket`
tells whether the last unit read, markers apart, is an opening bracket. -/
def stripFrom (units : LabelUnits α) (kept : List α) (bracket : Bool) : List α → List α
  | [] => kept.reverse
  | unit :: rest =>
      if units.counts '_' unit then
        match rest with
        | [] => kept.reverse
        | marked :: after =>
            if units.counts '_' marked then
              stripFrom units (units.underscore :: kept) bracket after
            else
              match after with
              | [] => stripFrom units kept bracket [marked]
              | closing :: others =>
                  if bracket && units.counts ')' closing then
                    stripFrom units kept.tail false others
                  else stripFrom units kept bracket (marked :: closing :: others)
      else stripFrom units (unit :: kept) (units.counts '(' unit) rest

def strip (units : LabelUnits α) (label : List α) : List α := units.stripFrom [] false label

theorem stripFrom_of_unmarked (units : LabelUnits α) (label kept : List α) (bracket : Bool)
    (unmarked : ∀ unit ∈ label, units.counts '_' unit = false) :
    units.stripFrom kept bracket label = kept.reverse ++ label := by
  induction label generalizing kept bracket with
  | nil => simp [stripFrom]
  | cons unit rest ih =>
      have plain := unmarked unit (List.mem_cons_self ..)
      have others := ih (unit :: kept) (units.counts '(' unit) fun other member =>
        unmarked other (List.mem_cons_of_mem _ member)
      unfold stripFrom
      simp [plain, others]

theorem strip_of_unmarked (units : LabelUnits α) (label : List α)
    (unmarked : ∀ unit ∈ label, units.counts '_' unit = false) : units.strip label = label := by
  rw [strip, stripFrom_of_unmarked units label [] false unmarked]
  rfl

end LabelUnits

def stripMnemonicChars (label : List Char) : List Char := LabelUnits.characters.strip label

end ScriptCatalog
