import ScriptCatalog.Number.Fixed
import ScriptCatalog.Proofs.Command.Quoting

/-! Numbers as words of a command. They are written with characters from the hyphen to the small z,
none of which means anything to the reader. -/

namespace ScriptCatalog

def HasWordCodes (text : List Char) : Prop := ∀ c ∈ text, 0x2d ≤ c.toNat ∧ c.toNat ≤ 0x7a

instance (text : List Char) : Decidable (HasWordCodes text) :=
  decidable_of_iff (text.all fun c => 0x2d ≤ c.toNat ∧ c.toNat ≤ 0x7a) (by simp [HasWordCodes])

theorem HasWordCodes.append {left right : List Char} (leftCodes : HasWordCodes left)
    (rightCodes : HasWordCodes right) : HasWordCodes (left ++ right) := by
  intro c member
  rcases List.mem_append.mp member with inLeft | inRight
  · exact leftCodes c inLeft
  · exact rightCodes c inRight

theorem HasWordCodes.isWord {text : List Char} (codes : HasWordCodes text) (notNil : text ≠ []) :
    IsWord text := by
  refine ⟨notNil, fun c member => ?_, fun c member => ?_⟩
  · obtain ⟨lower, _⟩ := codes c member
    rw [isInert_iff]
    refine ⟨?_, ?_, ?_, ?_⟩ <;> rintro rfl <;> exact absurd lower (by decide)
  · obtain ⟨lower, upper⟩ := codes c member
    simp only [isBlank, blankCodes, List.contains_eq_mem, List.mem_cons, List.not_mem_nil,
      or_false, decide_eq_false_iff_not]
    omega

theorem hasWordCodes_toDigits (value : Nat) : HasWordCodes (Nat.toDigits 10 value) := by
  intro c member
  have digit := Nat.isDigit_of_mem_toDigits (by decide) (by decide) member
  simp only [Char.isDigit, Bool.and_eq_true, decide_eq_true_eq, UInt32.le_iff_toNat_le] at digit
  have lower : 48 ≤ c.toNat := digit.1
  have upper : c.toNat ≤ 57 := digit.2
  omega

theorem hasWordCodes_padLeft (width : Nat) (digits : List Char) (codes : HasWordCodes digits) :
    HasWordCodes (padLeft width digits) := by
  refine HasWordCodes.append (fun c member => ?_) codes
  rw [List.eq_of_mem_replicate member]
  decide

theorem hasWordCodes_signChars (negative : Bool) : HasWordCodes (Binary64.signChars negative) := by
  cases negative <;> decide

theorem hasWordCodes_placedDigits (places value : Nat) :
    HasWordCodes (Binary64.placedDigits places value) := by
  refine (hasWordCodes_toDigits _).append ?_
  split
  · intro c member
    simp at member
  · have point : HasWordCodes ['.'] := by decide
    exact point.append (hasWordCodes_padLeft _ _ (hasWordCodes_toDigits _))

theorem isWord_natText (value : Nat) : IsWord (toString value).toList := by
  rw [Nat.toString_eq_repr, Nat.toList_repr]
  exact (hasWordCodes_toDigits value).isWord Nat.toDigits_ne_nil

theorem isWord_intText (value : Int) : IsWord (toString value).toList := by
  rw [Int.toString_eq_repr, Int.repr_eq_if]
  split
  · rw [Nat.toList_repr]
    exact (hasWordCodes_toDigits _).isWord Nat.toDigits_ne_nil
  · rw [String.toList_append, Nat.toList_repr]
    have sign : HasWordCodes "-".toList := by decide
    exact (sign.append (hasWordCodes_toDigits _)).isWord (by simp)

theorem isWord_fixed (places : Nat) (number : Binary64) : IsWord (number.fixed places) := by
  cases number with
  | nan =>
      have codes : HasWordCodes ['n', 'a', 'n'] := by decide
      exact codes.isWord (by simp)
  | infinite negative =>
      have codes : HasWordCodes ['i', 'n', 'f'] := by decide
      exact ((hasWordCodes_signChars negative).append codes).isWord (by simp)
  | finite negative exponent fraction =>
      refine HasWordCodes.isWord ?_ ?_
      · exact (hasWordCodes_signChars negative).append (hasWordCodes_placedDigits _ _)
      · simp [Binary64.fixed, Binary64.placedDigits, Nat.toDigits_ne_nil]

end ScriptCatalog
