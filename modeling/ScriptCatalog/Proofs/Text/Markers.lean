import Mathlib.Data.List.Basic
import ScriptCatalog.Label

/-! Labels without their markers, by the rules for markers and as they are read. The two agree on
every label but those in which an escaped underscore stands between a bracket and a marker, as in
`(___F)`: there reading takes the underscore back in place of the bracket. -/

namespace ScriptCatalog

namespace LabelUnits

variable {α : Type}

/-! One step after the other. -/

section

variable (units : LabelUnits α) (kept : List α) (bracket : Bool) {unit marked closing : α}

theorem stripFrom_escaped (marks : units.counts '_' unit = true)
    (escapes : units.counts '_' marked = true) (rest : List α) :
    units.stripFrom kept bracket (unit :: marked :: rest) =
      units.stripFrom (units.underscore :: kept) bracket rest := by
  rw [stripFrom.eq_def]
  simp only [marks, escapes, if_true]

theorem stripFrom_closed (marks : units.counts '_' unit = true)
    (plain : ¬units.counts '_' marked = true)
    (closes : (bracket && units.counts ')' closing) = true) (rest : List α) :
    units.stripFrom kept bracket (unit :: marked :: closing :: rest) =
      units.stripFrom kept.tail false rest := by
  rw [stripFrom.eq_def]
  simp only [marks, plain, closes, if_true, Bool.false_eq_true, if_false]

theorem stripFrom_single (marks : units.counts '_' unit = true)
    (plain : ¬units.counts '_' marked = true) {rest : List α}
    (apart : (bracket && rest.head?.any (units.counts ')')) = false) :
    units.stripFrom kept bracket (unit :: marked :: rest) =
      units.stripFrom kept bracket (marked :: rest) := by
  rw [stripFrom.eq_def]
  cases rest with
  | nil => simp only [marks, plain, if_true, Bool.false_eq_true, if_false]
  | cons closing others =>
      rw [List.head?_cons, Option.any_some] at apart
      simp only [marks, plain, apart, if_true, Bool.false_eq_true, if_false]

theorem stripFrom_unmarked (plain : ¬units.counts '_' unit = true) (rest : List α) :
    units.stripFrom kept bracket (unit :: rest) =
      units.stripFrom (unit :: kept) (units.counts '(' unit) rest := by
  rw [stripFrom.eq_def]
  simp only [plain, Bool.false_eq_true, if_false]

end

theorem stripFrom_append_kept (units : LabelUnits α) (kept label recent : List α) (bracket : Bool)
    (opened : bracket = true → recent ≠ []) :
    units.stripFrom (recent ++ kept) bracket label =
      kept.reverse ++ units.stripFrom recent bracket label := by
  fun_induction stripFrom units recent bracket label with
  | case1 recent bracket => simp [stripFrom]
  | case2 recent bracket unit marks => simp [stripFrom, marks]
  | case3 recent bracket unit marks marked after escapes ih =>
      rw [stripFrom_escaped _ _ _ marks escapes]
      exact ih (by simp)
  | case4 recent bracket unit marks marked plain ih =>
      rw [stripFrom_single _ _ _ marks plain (Bool.and_false _)]
      exact ih opened
  | case5 recent bracket unit marks marked plain closing others closes ih =>
      -- What is taken back was kept since the bracket, so nothing of `kept` is.
      have within : bracket = true := (Bool.and_eq_true_iff.mp closes).1
      obtain ⟨last, before, rfl⟩ := List.exists_cons_of_ne_nil (opened within)
      rw [stripFrom_closed _ _ _ marks plain closes]
      exact ih fun within => absurd within Bool.false_ne_true
  | case6 recent bracket unit marks marked plain closing others apart ih =>
      rw [stripFrom_single _ _ _ marks plain (Bool.eq_false_iff.mpr apart)]
      exact ih opened
  | case7 recent bracket unit rest plain ih =>
      rw [stripFrom_unmarked _ _ _ plain]
      exact ih (by simp)

/-- Reads a label as `stripFrom` does, and fails where a unit is to be taken back and none was
kept. -/
def stripFrom? (units : LabelUnits α) (kept : List α) (bracket : Bool) :
    List α → Option (List α)
  | [] => some kept.reverse
  | unit :: rest =>
      if units.counts '_' unit then
        match rest with
        | [] => some kept.reverse
        | marked :: after =>
            if units.counts '_' marked then
              stripFrom? units (units.underscore :: kept) bracket after
            else
              match after with
              | [] => stripFrom? units kept bracket [marked]
              | closing :: others =>
                  if bracket && units.counts ')' closing then
                    match kept with
                    | [] => none
                    | _ :: before => stripFrom? units before false others
                  else stripFrom? units kept bracket (marked :: closing :: others)
      else stripFrom? units (unit :: kept) (units.counts '(' unit) rest

/-- A unit is taken back only where one was kept: the bracket before the marker, if not something
behind it. -/
theorem stripFrom?_eq (units : LabelUnits α) (label kept : List α) (bracket : Bool)
    (opened : bracket = true → kept ≠ []) :
    units.stripFrom? kept bracket label = some (units.stripFrom kept bracket label) := by
  fun_induction stripFrom units kept bracket label with
  | case1 kept bracket => rfl
  | case2 kept bracket unit marks => simp [stripFrom?, marks]
  | case3 kept bracket unit marks marked after escapes ih =>
      unfold stripFrom?
      simpa [marks, escapes] using ih (by simp)
  | case4 kept bracket unit marks marked plain ih =>
      unfold stripFrom?
      simpa [marks, plain] using ih opened
  | case5 kept bracket unit marks marked plain closing others closes ih =>
      unfold stripFrom?
      have within : bracket = true := (Bool.and_eq_true_iff.mp closes).1
      obtain ⟨last, before, rfl⟩ := List.exists_cons_of_ne_nil (opened within)
      simpa [marks, plain, closes] using ih (by simp)
  | case6 kept bracket unit marks marked plain closing others apart ih =>
      unfold stripFrom?
      simpa [marks, plain, apart] using ih opened
  | case7 kept bracket unit rest plain ih =>
      unfold stripFrom?
      simpa [plain] using ih (by simp)

end LabelUnits

/-! Labels and their beginnings. -/

/-- A label that starts with a bracket and a marker in it, with so many escaped underscores between
the two. -/
def bracketed (escaped : Nat) (marked : Char) (rest : List Char) : List Char :=
  '(' :: (List.replicate (2 * escaped + 1) '_' ++ marked :: ')' :: rest)

theorem replicate_marker (escaped : Nat) (rest : List Char) :
    List.replicate (2 * escaped + 1) '_' ++ rest =
      List.replicate (2 * escaped) '_' ++ '_' :: rest := by
  rw [List.replicate_succ', List.append_assoc, List.singleton_append]

def StartsBracketed (label : List Char) : Prop :=
  ∃ escaped marked rest, marked ≠ '_' ∧ label = bracketed escaped marked rest

theorem bracketed_append (escaped : Nat) (marked : Char) (rest others : List Char) :
    bracketed escaped marked rest ++ others = bracketed escaped marked (rest ++ others) := by
  simp [bracketed]

theorem length_bracketed (escaped : Nat) (marked : Char) (rest : List Char) :
    (bracketed escaped marked rest).length = rest.length + 2 * escaped + 4 := by
  simp only [bracketed, List.length_cons, List.length_append, List.length_replicate]
  omega

theorem StartsBracketed.escape {rest : List Char} (starts : StartsBracketed ('(' :: rest)) :
    StartsBracketed ('(' :: '_' :: '_' :: rest) := by
  obtain ⟨escaped, marked, others, other, same⟩ := starts
  refine ⟨escaped + 1, marked, others, other, ?_⟩
  rw [(List.cons.inj same).2]
  rfl

/-- What is said of a label from what is said of the rest after each beginning is said of all. -/
theorem label_induction {motive : List Char → Prop} (nil : motive [])
    (escaped : ∀ rest, motive rest → motive ('_' :: '_' :: rest))
    (marker : ∀ rest, rest.head? ≠ some '_' → motive rest → motive ('_' :: rest))
    (bracketed : ∀ escaped marked rest, marked ≠ '_' → motive rest →
      motive (bracketed escaped marked rest))
    (plain : ∀ c rest, c ≠ '_' → ¬StartsBracketed (c :: rest) → motive rest → motive (c :: rest))
    (label : List Char) : motive label := by
  induction size : label.length using Nat.strongRecOn generalizing label with
  | ind size ih =>
      cases label with
      | nil => exact nil
      | cons c rest =>
          by_cases marks : c = '_'
          · subst marks
            by_cases again : rest.head? = some '_'
            · obtain ⟨others, rfl⟩ := List.head?_eq_some_iff.mp again
              exact escaped others (ih others.length (by simp at size; omega) others rfl)
            · exact marker rest again (ih rest.length (by simp at size; omega) rest rfl)
          · by_cases opens : StartsBracketed (c :: rest)
            · obtain ⟨count, marked, others, other, same⟩ := opens
              rw [same] at size ⊢
              rw [length_bracketed] at size
              exact bracketed count marked others other (ih others.length (by omega) others rfl)
            · exact plain c rest marks opens (ih rest.length (by simp at size; omega) rest rfl)

/-- A bracket with a marker in it does not reach into another one. -/
theorem startsBracketed_of_append {c : Char} {label rest : List Char}
    (starts : StartsBracketed (c :: label ++ '(' :: '_' :: rest)) :
    StartsBracketed (c :: label) := by
  obtain ⟨escaped, marked, others, other, same⟩ := starts
  rw [bracketed, List.cons_append, List.cons.injEq] at same
  obtain ⟨rfl, same⟩ := same
  have split : label ++ '(' :: '_' :: rest =
      (List.replicate (2 * escaped + 1) '_' ++ [marked]) ++ ')' :: others := by
    rw [same, List.append_assoc]
    rfl
  -- Either the other bracket would stand among the underscores, or all of this one is before it.
  rcases List.append_eq_append_iff.mp split with ⟨between, early, tail⟩ | ⟨between, whole, tail⟩
  · cases between with
    | nil => cases tail
    | cons first between =>
        cases between with
        | nil => cases tail
        | cons second between =>
            have among := congrArg List.dropLast early
            rw [List.dropLast_concat, List.dropLast_append_of_ne_nil (List.cons_ne_nil _ _)]
              at among
            have member : first ∈ List.replicate (2 * escaped + 1) '_' := by
              rw [among]
              simp
            rw [List.eq_of_mem_replicate member] at tail
            cases tail
  · cases between with
    | nil => cases tail
    | cons first between =>
        obtain ⟨rfl, tail⟩ := List.cons.inj tail
        refine ⟨escaped, marked, between, other, ?_⟩
        rw [whole, bracketed, List.append_assoc]
        rfl

/-! Ways of reading labels. -/

/-- A way of reading labels from the front, where `shown` is what it keeps of a bracket with a
marker in it. -/
structure ReadsLabels (shown : Nat → Char → List Char) (read : List Char → List Char) : Prop where
  nil : read [] = []
  escape : ∀ rest, read ('_' :: '_' :: rest) = '_' :: read rest
  marker : ∀ rest, rest.head? ≠ some '_' → read ('_' :: rest) = read rest
  bracket : ∀ escaped marked rest, marked ≠ '_' →
    read (bracketed escaped marked rest) = shown escaped marked ++ read rest
  plain : ∀ c rest, c ≠ '_' → ¬StartsBracketed (c :: rest) → read (c :: rest) = c :: read rest

section

variable {shown others : Nat → Char → List Char} {read readOther : List Char → List Char}
  (reads : ReadsLabels shown read)

include reads

theorem ReadsLabels.append (before rest : List Char) :
    read (before ++ '(' :: '_' :: rest) = read before ++ read ('(' :: '_' :: rest) := by
  induction before using label_induction with
  | nil => rw [reads.nil, List.nil_append, List.nil_append]
  | escaped others ih => simp only [List.cons_append, reads.escape, ih]
  | marker others single ih =>
      have still : (others ++ '(' :: '_' :: rest).head? ≠ some '_' := by
        cases others with
        | nil => simp
        | cons c others => exact single
      rw [List.cons_append, reads.marker _ still, reads.marker _ single, ih]
  | bracketed escaped marked others other ih =>
      rw [bracketed_append, reads.bracket _ _ _ other, reads.bracket _ _ _ other, ih,
        List.append_assoc]
  | plain c others plain unopened ih =>
      have still : ¬StartsBracketed (c :: (others ++ '(' :: '_' :: rest)) :=
        fun starts => unopened (startsBracketed_of_append starts)
      rw [List.cons_append, reads.plain _ _ plain still, reads.plain _ _ plain unopened, ih,
        List.cons_append]

theorem ReadsLabels.append_bracketed (before : List Char) (escaped : Nat) {marked : Char}
    (other : marked ≠ '_') (rest : List Char) :
    read (before ++ bracketed escaped marked rest) =
      read before ++ (shown escaped marked ++ read rest) := by
  rw [← reads.bracket _ _ _ other, bracketed, replicate_marker]
  cases escaped with
  | zero => exact reads.append before _
  | succ escaped => exact reads.append before _

variable (readsOther : ReadsLabels others readOther)

include readsOther

/-- Two ways of reading agree on a label if they keep the same of every bracket in it. -/
theorem ReadsLabels.eq_of_shown {label : List Char}
    (same : ∀ before escaped marked rest, marked ≠ '_' →
      label = before ++ bracketed escaped marked rest →
        shown escaped marked = others escaped marked) : read label = readOther label := by
  induction label using label_induction with
  | nil => rw [reads.nil, readsOther.nil]
  | escaped rest ih =>
      rw [reads.escape, readsOther.escape, ih]
      exact fun before count marked after other held =>
        same ('_' :: '_' :: before) count marked after other (by rw [held]; rfl)
  | marker rest single ih =>
      rw [reads.marker _ single, readsOther.marker _ single, ih]
      exact fun before count marked after other held =>
        same ('_' :: before) count marked after other (by rw [held]; rfl)
  | bracketed escaped marked rest other ih =>
      rw [reads.bracket _ _ _ other, readsOther.bracket _ _ _ other,
        same [] escaped marked rest other rfl, ih]
      intro before count mark after different held
      refine same (bracketed escaped marked before) count mark after different ?_
      rw [held, bracketed_append]
  | plain c rest plain unopened ih =>
      rw [reads.plain _ _ plain unopened, readsOther.plain _ _ plain unopened, ih]
      exact fun before count marked after other held =>
        same (c :: before) count marked after other (by rw [held]; rfl)

theorem ReadsLabels.length_le
    (less : ∀ escaped marked, (shown escaped marked).length ≤ (others escaped marked).length)
    (label : List Char) : (read label).length ≤ (readOther label).length := by
  induction label using label_induction with
  | nil => simp [reads.nil, readsOther.nil]
  | escaped rest ih =>
      rw [reads.escape, readsOther.escape]
      exact Nat.succ_le_succ ih
  | marker rest single ih =>
      rw [reads.marker _ single, readsOther.marker _ single]
      exact ih
  | bracketed escaped marked rest other ih =>
      rw [reads.bracket _ _ _ other, readsOther.bracket _ _ _ other, List.length_append,
        List.length_append]
      exact Nat.add_le_add (less escaped marked) ih
  | plain c rest plain unopened ih =>
      rw [reads.plain _ _ plain unopened, readsOther.plain _ _ plain unopened]
      exact Nat.succ_le_succ ih

end

/-! The rules for markers. -/

/-- A label without its markers: `(_X)` is left out, `__` stands for `_`, and any other `_` is left
out. -/
def withoutMarkers : List Char → List Char
  | [] => []
  | '(' :: '_' :: marked :: ')' :: rest =>
      if marked ≠ '_' then withoutMarkers rest
      else '(' :: withoutMarkers ('_' :: marked :: ')' :: rest)
  | '_' :: '_' :: rest => '_' :: withoutMarkers rest
  | '_' :: rest => withoutMarkers rest
  | c :: rest => c :: withoutMarkers rest

/-- What the rules keep of a bracket with a marker in it. -/
def shownByRules : Nat → Char → List Char
  | 0, _ => []
  | escaped + 1, marked => '(' :: (List.replicate (escaped + 1) '_' ++ [marked, ')'])

theorem withoutMarkers_escapes (count : Nat) (rest : List Char) :
    withoutMarkers (List.replicate (2 * count) '_' ++ rest) =
      List.replicate count '_' ++ withoutMarkers rest := by
  induction count with
  | zero => rfl
  | succ count ih =>
      rw [Nat.mul_succ, List.replicate_succ, List.replicate_succ, List.replicate_succ,
        List.cons_append, List.cons_append, withoutMarkers, ih, List.cons_append]

theorem withoutMarkers_marker {rest : List Char} (single : rest.head? ≠ some '_') :
    withoutMarkers ('_' :: rest) = withoutMarkers rest := by
  rw [withoutMarkers]
  rintro others rfl
  exact single rfl

theorem withoutMarkers_plain {c : Char} {rest : List Char} (plain : c ≠ '_')
    (unopened : ∀ marked others, marked ≠ '_' → c :: rest ≠ '(' :: '_' :: marked :: ')' :: others) :
    withoutMarkers (c :: rest) = c :: withoutMarkers rest := by
  by_cases group : ∃ marked others, c :: rest = '(' :: '_' :: marked :: ')' :: others
  · obtain ⟨marked, others, same⟩ := group
    cases same
    have escapes : marked = '_' := by
      by_contra other
      exact unopened marked others other rfl
    rw [withoutMarkers, if_neg (not_not.mpr escapes)]
  · rw [withoutMarkers]
    · rintro marked others rfl rfl
      exact group ⟨marked, others, rfl⟩
    · exact fun _ marks => absurd marks plain
    · exact plain

theorem withoutMarkers_unbracketed {marked : Char} (other : marked ≠ '_') (rest : List Char) :
    withoutMarkers ('_' :: marked :: ')' :: rest) = marked :: ')' :: withoutMarkers rest := by
  rw [withoutMarkers_marker (by simpa using other), withoutMarkers_plain other,
    withoutMarkers_plain (by decide)]
  · rintro _ _ _ ⟨⟩
  · rintro _ _ _ ⟨⟩

theorem readsLabels_withoutMarkers : ReadsLabels shownByRules withoutMarkers where
  nil := rfl
  escape rest := by rw [withoutMarkers]
  marker rest single := withoutMarkers_marker single
  bracket escaped marked rest other := by
    cases escaped with
    | zero =>
        change withoutMarkers ('(' :: '_' :: marked :: ')' :: rest) = _
        rw [withoutMarkers, if_pos other]
        rfl
    | succ escaped =>
        -- Behind the bracket there are escaped underscores, then a marker that is left out.
        have opened : withoutMarkers (bracketed (escaped + 1) marked rest) =
            '(' :: withoutMarkers (List.replicate (2 * (escaped + 1)) '_' ++
              '_' :: marked :: ')' :: rest) := by
          rw [bracketed, replicate_marker]
          refine withoutMarkers_plain (by decide) fun other others different same => ?_
          rw [Nat.mul_succ, List.replicate_succ, List.replicate_succ] at same
          obtain ⟨_, same⟩ := List.cons.inj same
          obtain ⟨_, same⟩ := List.cons.inj same
          exact different (List.cons.inj same).1.symm
        rw [opened, withoutMarkers_escapes, withoutMarkers_unbracketed other]
        simp [shownByRules]
  plain c rest plain unopened :=
    withoutMarkers_plain plain fun marked others other same =>
      unopened ⟨0, marked, others, other, same⟩

/-! Reading with a look back at the bracket. -/

/-- What reading keeps of a bracket with a marker in it. -/
def shownAsRead : Nat → Char → List Char
  | 0, _ => []
  | escaped + 1, _ => '(' :: List.replicate escaped '_'

open LabelUnits

theorem stripFrom_kept (kept label : List Char) :
    characters.stripFrom kept false label = kept.reverse ++ stripMnemonicChars label :=
  stripFrom_append_kept _ kept label [] false nofun

theorem stripFrom_escapes (count : Nat) (kept rest : List Char) (bracket : Bool) :
    characters.stripFrom kept bracket (List.replicate (2 * count) '_' ++ rest) =
      characters.stripFrom (List.replicate count '_' ++ kept) bracket rest := by
  induction count generalizing kept with
  | zero => rfl
  | succ count ih =>
      rw [Nat.mul_succ, List.replicate_succ, List.replicate_succ, List.cons_append,
        List.cons_append, stripFrom_escaped _ _ _ rfl rfl, ih, List.replicate_succ',
        List.append_assoc]
      rfl

theorem stripFrom_plain {c : Char} (plain : c ≠ '_') (kept rest : List Char) (bracket : Bool) :
    characters.stripFrom kept bracket (c :: rest) =
      characters.stripFrom (c :: kept) (c == '(') rest :=
  stripFrom_unmarked _ _ _ (by simpa [characters] using plain) rest

theorem stripFrom_unclosed {kept rest : List Char} {bracket : Bool}
    (unclosed : bracket = true → ¬StartsBracketed ('(' :: rest)) :
    characters.stripFrom kept bracket rest = characters.stripFrom kept false rest := by
  fun_induction stripFrom characters kept bracket rest with
  | case1 kept bracket => rfl
  | case2 kept bracket unit marks => simp [stripFrom, marks]
  | case3 kept bracket unit marks marked after escapes ih =>
      rw [stripFrom_escaped _ _ false marks escapes]
      cases eq_of_beq marks
      cases eq_of_beq escapes
      exact ih fun within starts => unclosed within starts.escape
  | case4 kept bracket unit marks marked plain ih =>
      rw [stripFrom_single _ _ false marks plain rfl, stripFrom_unmarked _ _ bracket plain,
        stripFrom_unmarked _ _ false plain]
  | case5 kept bracket unit marks marked plain closing others closes ih =>
      obtain ⟨within, closes⟩ := Bool.and_eq_true_iff.mp closes
      cases eq_of_beq marks
      cases eq_of_beq closes
      exact absurd ⟨0, marked, others, by simpa [characters] using plain, rfl⟩ (unclosed within)
  | case6 kept bracket unit marks marked plain closing others apart ih =>
      rw [stripFrom_single _ _ false marks plain rfl, stripFrom_unmarked _ _ bracket plain,
        stripFrom_unmarked _ _ false plain]
  | case7 kept bracket unit rest plain ih =>
      rw [stripFrom_unmarked _ _ false plain]

theorem readsLabels_stripMnemonicChars : ReadsLabels shownAsRead stripMnemonicChars where
  nil := rfl
  escape rest := (stripFrom_escaped _ _ _ rfl rfl rest).trans (stripFrom_kept ['_'] rest)
  marker rest single := by
    cases rest with
    | nil => rfl
    | cons c rest =>
        have plain : ¬characters.counts '_' c = true := by simpa [characters] using single
        exact stripFrom_single _ _ _ rfl plain rfl
  bracket escaped marked rest other := by
    have plain : ¬characters.counts '_' marked = true := by simpa [characters] using other
    change characters.stripFrom [] false (bracketed escaped marked rest) = _
    rw [bracketed, stripFrom_plain (by decide), replicate_marker, stripFrom_escapes,
      stripFrom_closed _ _ _ rfl plain rfl, stripFrom_kept]
    cases escaped with
    | zero => rfl
    | succ escaped => simp [shownAsRead, List.replicate_succ]
  plain c rest plain unopened := by
    refine (stripFrom_plain plain [] rest false).trans ?_
    rw [stripFrom_unclosed, stripFrom_kept]
    · rfl
    · intro opens
      cases eq_of_beq opens
      exact unopened

theorem length_shownAsRead_le (escaped : Nat) (marked : Char) :
    (shownAsRead escaped marked).length ≤ (shownByRules escaped marked).length := by
  cases escaped with
  | zero => exact Nat.le_refl _
  | succ escaped =>
      simp only [shownAsRead, shownByRules, List.length_cons, List.length_append,
        List.length_replicate]
      omega

/-- Somewhere in a label, escaped underscores stand between a bracket and a marker in it. -/
def HoldsEscapedBracket (label : List Char) : Prop :=
  ∃ before escaped marked rest, marked ≠ '_' ∧
    label = before ++ bracketed (escaped + 1) marked rest

/-- Labels are read without a unit taken back where none was kept. What is kept is what the rules
say, if and only if no escaped underscore stands between a bracket and a marker in it. Where some
do, the rules keep the bracket as it is but for the marker; what is read of it is the bracket and
all but one of the underscores. -/
theorem markers_left_out (label : String) :
    Label.withoutMnemonics (.text label) =
        .ok (String.ofList (stripMnemonicChars label.toList)) ∧
      characters.stripFrom? [] false label.toList = some (stripMnemonicChars label.toList) ∧
      (stripMnemonicChars label.toList = withoutMarkers label.toList ↔
        ¬HoldsEscapedBracket label.toList) ∧
      ∀ before escaped marked rest, marked ≠ '_' →
        label.toList = before ++ bracketed (escaped + 1) marked rest →
          stripMnemonicChars label.toList = stripMnemonicChars before ++
              ('(' :: List.replicate escaped '_' ++ stripMnemonicChars rest) ∧
            withoutMarkers label.toList = withoutMarkers before ++
              ('(' :: (List.replicate (escaped + 1) '_' ++ [marked, ')']) ++
                withoutMarkers rest) := by
  have asRead := readsLabels_stripMnemonicChars
  have byRules := readsLabels_withoutMarkers
  refine ⟨rfl, stripFrom?_eq _ _ _ _ nofun, ⟨?_, fun unescaped => ?_⟩, ?_⟩
  · rintro same ⟨before, escaped, marked, rest, other, held⟩
    -- What is read of such a bracket is three characters shorter than what the rules keep of it.
    have lengths := congrArg List.length same
    rw [held, asRead.append_bracketed _ _ other, byRules.append_bracketed _ _ other] at lengths
    have earlier := asRead.length_le byRules length_shownAsRead_le before
    have later := asRead.length_le byRules length_shownAsRead_le rest
    simp only [shownAsRead, shownByRules, List.length_append, List.length_cons,
      List.length_replicate, List.length_nil] at lengths
    omega
  · refine asRead.eq_of_shown byRules fun before escaped marked rest other held => ?_
    cases escaped with
    | zero => rfl
    | succ escaped => exact absurd ⟨before, escaped, marked, rest, other, held⟩ unescaped
  · intro before escaped marked rest other held
    rw [held]
    exact ⟨asRead.append_bracketed _ _ other _, byRules.append_bracketed _ _ other _⟩

theorem markers_left_out_escaped :
    "a (_____F) (_O)".toList = "a ".toList ++ bracketed 2 'F' " (_O)".toList ∧
      stripMnemonicChars "a (_____F) (_O)".toList = stripMnemonicChars "a ".toList ++
        ('(' :: List.replicate 1 '_' ++ stripMnemonicChars " (_O)".toList) ∧
      withoutMarkers "a (_____F) (_O)".toList = withoutMarkers "a ".toList ++
        ('(' :: (List.replicate 2 '_' ++ ['F', ')']) ++ withoutMarkers " (_O)".toList) := by
  have held : "a (_____F) (_O)".toList = "a ".toList ++ bracketed 2 'F' " (_O)".toList := by decide
  exact ⟨held, (markers_left_out "a (_____F) (_O)").2.2.2 _ 1 'F' _ (by decide) held⟩

/-- An escaped underscore is lost where a bracket is open before it and a marker follows. -/
theorem escaped_underscore_taken_back :
    Label.withoutMnemonics (.text "(___F)") = .ok "(" ∧
      withoutMarkers "(___F)".toList = "(_F)".toList :=
  ⟨rfl, by decide⟩

end ScriptCatalog
