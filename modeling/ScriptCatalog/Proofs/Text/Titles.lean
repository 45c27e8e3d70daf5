import Mathlib.Data.List.Infix
import ScriptCatalog.Proofs.Script.Access

/-! The titles of scripts. A title is cut out of a label twice: at the last `/` of a menu path, and
at the first ellipsis, which is looked for in two spellings. Each cut is described by what stands
before and after it. -/

namespace ScriptCatalog

variable {mark text before after : List Char}

/-! The first place of a mark. -/

theorem splitAtFirst_eq_some (marked : mark ≠ [])
    (split : splitAtFirst mark text = some (before, after)) :
    text = before ++ mark ++ after ∧
      ∀ earlier later, text = earlier ++ mark ++ later → before.length ≤ earlier.length := by
  induction text generalizing before with
  | nil =>
      rw [splitAtFirst, if_neg (by simpa using marked)] at split
      cases split
  | cons c rest ih =>
      rw [splitAtFirst] at split
      by_cases here : mark.isPrefixOf (c :: rest) = true
      · rw [if_pos here] at split
        cases split
        refine ⟨?_, fun _ _ _ => Nat.zero_le _⟩
        have starts : mark <+: c :: rest := List.isPrefixOf_iff_prefix.mp here
        exact (List.prefix_iff_eq_append.mp starts).symm
      · rw [if_neg here, Option.map_eq_some_iff] at split
        obtain ⟨⟨shorter, _⟩, found, same⟩ := split
        cases same
        obtain ⟨whole, first⟩ := ih found
        refine ⟨congrArg (c :: ·) whole, fun earlier later again => ?_⟩
        cases earlier with
        | nil =>
            rw [List.nil_append] at again
            exact absurd (List.isPrefixOf_iff_prefix.mpr ⟨later, again.symm⟩) here
        | cons d earlier =>
            rw [List.cons_append, List.cons_append, List.cons.injEq] at again
            exact Nat.succ_le_succ (first earlier later again.2)

theorem splitAtFirst_eq_none_iff (marked : mark ≠ []) :
    splitAtFirst mark text = none ↔ ¬mark <:+: text := by
  induction text with
  | nil => simp [splitAtFirst, marked]
  | cons c rest ih =>
      rw [splitAtFirst, List.infix_cons_iff, ← List.isPrefixOf_iff_prefix]
      by_cases here : mark.isPrefixOf (c :: rest) = true
      · simp [here]
      · simp [here, ih]

/-- A text that ends in a mark, and in which the mark stands nowhere else. -/
def EndsInFirst (mark text before : List Char) : Prop :=
  text = before ++ mark ∧ ∀ earlier later, text = earlier ++ mark ++ later → later = []

theorem EndsInFirst.infix (ends : EndsInFirst mark text before) : mark <:+: text :=
  ⟨before, [], by rw [List.append_nil, ends.1]⟩

/-- What stands before a mark that stands nowhere else does not hold it. -/
theorem EndsInFirst.not_infix (marked : mark ≠ []) (ends : EndsInFirst mark text before) :
    ¬mark <:+: before := by
  rintro ⟨earlier, later, held⟩
  have again : text = earlier ++ mark ++ (later ++ mark) := by
    rw [ends.1, ← held, List.append_assoc _ later]
  exact marked (List.append_eq_nil_iff.mp (ends.2 _ _ again)).2

theorem endsInFirst_sign_iff :
    EndsInFirst ellipsisSign text before ↔ text = before ++ ellipsisSign ∧ '…' ∉ before := by
  constructor
  · intro ends
    refine ⟨ends.1, fun held => ends.not_infix (List.cons_ne_nil _ _) ?_⟩
    exact (List.singleton_infix_iff '…' before).mpr held
  · rintro ⟨whole, absent⟩
    refine ⟨whole, fun earlier later again => ?_⟩
    rw [whole] at again
    rcases List.eq_nil_or_concat later with none | ⟨most, last, rfl⟩
    · exact none
    · -- Where something follows a sign, that sign is not the last one.
      rw [List.concat_eq_append, ← List.append_assoc] at again
      have sooner : before = earlier ++ ellipsisSign ++ most := (List.append_inj' again rfl).1
      rw [sooner] at absent
      simp [ellipsisSign] at absent

/-- A mark is first found at the end of a text, or farther to the front, or nowhere. -/
theorem splitAtFirst_cases (marked : mark ≠ []) (text : List Char) :
    (∃ before, splitAtFirst mark text = some (before, []) ∧ EndsInFirst mark text before) ∨
      (∃ before c rest, splitAtFirst mark text = some (before, c :: rest) ∧ mark <:+: text ∧
        ∀ kept, ¬EndsInFirst mark text kept) ∨
      (splitAtFirst mark text = none ∧ ¬mark <:+: text) := by
  cases split : splitAtFirst mark text with
  | none => exact .inr (.inr ⟨rfl, (splitAtFirst_eq_none_iff marked).mp split⟩)
  | some parts =>
      obtain ⟨before, after⟩ := parts
      obtain ⟨whole, first⟩ := splitAtFirst_eq_some marked split
      cases after with
      | nil =>
          rw [List.append_nil] at whole
          refine .inl ⟨before, rfl, whole, fun earlier later again => ?_⟩
          have less := first earlier later again
          have lengths := congrArg List.length (whole.symm.trans again)
          simp only [List.length_append] at lengths
          exact List.eq_nil_of_length_eq_zero (by omega)
      | cons c rest =>
          refine .inr (.inl ⟨before, c, rest, rfl, ⟨before, c :: rest, whole.symm⟩, ?_⟩)
          rintro kept ⟨_, only⟩
          exact List.cons_ne_nil c rest (only before (c :: rest) whole)

/-! The ellipsis. -/

theorem periods_ne_nil : periods ≠ [] := List.cons_ne_nil _ _

theorem ellipsisSign_ne_nil : ellipsisSign ≠ [] := List.cons_ne_nil _ _

/-- Which ellipsis ends a title and is left out of it. -/
structure DropsEllipsis (title kept ellipsis : List Char) : Prop where
  whole : title = kept ++ ellipsis
  among : ellipsis = [] ∨ ellipsis = periods ∨ ellipsis = ellipsisSign
  periods_iff : ellipsis = periods ↔ ∃ before, EndsInFirst periods title before
  sign_iff : ellipsis = ellipsisSign ↔
    ¬periods <:+: title ∧ ∃ before, title = before ++ ellipsisSign ∧ '…' ∉ before

theorem dropsEllipsis_none {title : List Char}
    (noPeriods : ∀ before, ¬EndsInFirst periods title before)
    (noSign : periods <:+: title ∨ ∀ before, ¬EndsInFirst ellipsisSign title before) :
    DropsEllipsis title title [] := by
  refine ⟨(List.append_nil title).symm, .inl rfl, ?_, ?_⟩
  · exact iff_of_false periods_ne_nil.symm (not_exists.mpr noPeriods)
  · refine iff_of_false ellipsisSign_ne_nil.symm ?_
    rintro ⟨unheld, before, ends⟩
    rcases noSign with held | noSign
    · exact unheld held
    · exact noSign before (endsInFirst_sign_iff.mpr ends)

theorem dropsEllipsis_strip (title : List Char) :
    ∃ ellipsis, DropsEllipsis title (stripEllipsisChars title) ellipsis := by
  have differ : periods ≠ ellipsisSign := by decide
  rw [stripEllipsisChars]
  rcases splitAtFirst_cases periods_ne_nil title with
    ⟨before, found, ends⟩ | ⟨before, c, rest, found, held, sooner⟩ | ⟨found, unheld⟩
  · rw [found]
    refine ⟨periods, ends.1, .inr (.inl rfl), iff_of_true rfl ⟨before, ends⟩, ?_⟩
    exact iff_of_false differ fun unheld => unheld.1 ends.infix
  · rw [found]
    exact ⟨[], dropsEllipsis_none sooner (.inl held)⟩
  · have noPeriods (before : List Char) : ¬EndsInFirst periods title before :=
      fun ends => unheld ends.infix
    rw [found]
    rcases splitAtFirst_cases ellipsisSign_ne_nil title with
      ⟨before, found, ends⟩ | ⟨before, c, rest, found, _, sooner⟩ | ⟨found, absent⟩
    · rw [found]
      have last := endsInFirst_sign_iff.mp ends
      refine ⟨ellipsisSign, ends.1, .inr (.inr rfl), ?_, iff_of_true rfl ⟨unheld, before, last⟩⟩
      exact iff_of_false differ.symm (not_exists.mpr noPeriods)
    · rw [found]
      exact ⟨[], dropsEllipsis_none noPeriods (.inr sooner)⟩
    · rw [found]
      exact ⟨[], dropsEllipsis_none noPeriods (.inr fun _ ends => absent ends.infix)⟩

theorem DropsEllipsis.not_infix {title kept ellipsis : List Char}
    (drops : DropsEllipsis title kept ellipsis) (dropped : ellipsis ≠ []) :
    ¬periods <:+: kept := by
  rcases drops.among with none | same | same
  · exact absurd none dropped
  · obtain ⟨before, ends⟩ := drops.periods_iff.mp same
    have whole := drops.whole
    rw [same, ends.1] at whole
    rw [← List.append_cancel_right whole]
    exact ends.not_infix periods_ne_nil
  · intro held
    have inside : periods <:+: title := by
      rw [drops.whole]
      exact List.infix_append_of_infix_left held
    exact (drops.sign_iff.mp same).1 inside

/-! The last part of a menu path. -/

/-- What stands after the last `/` of a label that starts with `<`, if anything does. -/
def EndsPath (label part : List Char) : Prop :=
  label.head? = some '<' ∧ (∃ menu, label = menu ++ '/' :: part) ∧ '/' ∉ part ∧ part ≠ []

theorem afterLastSlash_append {part : List Char} (plain : '/' ∉ part) (menu : List Char) :
    afterLastSlash (menu ++ '/' :: part) = part := by
  have passed : ∀ c ∈ part.reverse, (c != '/') = true := by
    intro c held
    rw [bne_iff_ne]
    rintro rfl
    exact plain (List.mem_reverse.mp held)
  have turned : (menu ++ '/' :: part).reverse = part.reverse ++ '/' :: menu.reverse := by simp
  rw [afterLastSlash, turned, List.takeWhile_append_of_pos passed,
    List.takeWhile_cons_of_neg (by decide), List.append_nil, List.reverse_reverse]

theorem exists_last_slash {label : List Char} (held : '/' ∈ label) :
    ∃ menu part, label = menu ++ '/' :: part ∧ '/' ∉ part := by
  obtain ⟨part, menu, turned, plain⟩ := List.eq_append_cons_of_mem (List.mem_reverse.mpr held)
  refine ⟨menu.reverse, part.reverse, ?_, fun inside => plain (List.mem_reverse.mp inside)⟩
  rw [← List.reverse_reverse label, turned]
  simp

/-- A label is cut to the last part of the path that it ends with, or kept if it ends with none. -/
theorem lastPathPart_cases (label : List Char) :
    EndsPath label (lastPathPart label) ∨
      (lastPathPart label = label ∧ ∀ part, ¬EndsPath label part) := by
  by_cases held : '/' ∈ label
  · obtain ⟨menu, part, rfl, plain⟩ := exists_last_slash held
    have last : afterLastSlash (menu ++ '/' :: part) = part := afterLastSlash_append plain menu
    rw [lastPathPart, last]
    by_cases cut : (menu ++ '/' :: part).head? = some '<' ∧ part ≠ []
    · obtain ⟨opens, some⟩ := cut
      rw [if_pos (by simp [opens, some])]
      exact .inl ⟨opens, ⟨menu, rfl⟩, plain, some⟩
    · refine .inr ⟨if_neg ?_, ?_⟩
      · simpa using cut
      · rintro other ⟨opens, ⟨before, same⟩, absent, some⟩
        have again : other = part := by
          rw [← last, same, afterLastSlash_append absent]
        exact cut ⟨opens, again ▸ some⟩
  · refine .inr ⟨if_neg (by simp [held]), ?_⟩
    rintro part ⟨_, ⟨menu, same⟩, _⟩
    rw [same] at held
    exact held (by simp)

/-- A menu path that does not end in `/` has no `/` in its last part. -/
theorem not_mem_lastPathPart {label : List Char} (opens : label.head? = some '<')
    (ends : label.getLast? ≠ some '/') : '/' ∉ lastPathPart label := by
  rcases lastPathPart_cases label with ⟨_, _, plain, _⟩ | ⟨same, noPart⟩
  · exact plain
  · rw [same]
    intro held
    obtain ⟨menu, part, rfl, plain⟩ := exists_last_slash held
    refine noPart part ⟨opens, ⟨menu, rfl⟩, plain, ?_⟩
    rintro rfl
    exact ends List.getLast?_concat

/-! The title of a script. -/

theorem Script.title_eq (script : LiveScript) {label : String}
    (labelled : script.profile.menuLabel = .text label) :
    Script.title (.live script) =
      .ok (String.ofList (plainTitleChars (stripMnemonicChars label.toList))) (.live script) :=
  Act.bind_of_ok _ (Script.told_text _ labelled)

/-- The title of a script is its label without markers, cut to the last part if that is the path of
a menu, and without the ellipsis if the first one ends it. So there is no `/` in the title of a path
that does not end in one, and no more periods follow each other where an ellipsis was dropped. -/
theorem Script.title_of_label (script : LiveScript) {label : String}
    (labelled : script.profile.menuLabel = .text label) {unmarked : List Char}
    (read : stripMnemonicChars label.toList = unmarked) :
    ∃ part ellipsis title,
      (EndsPath unmarked part ∨ (part = unmarked ∧ ∀ part, ¬EndsPath unmarked part)) ∧
      DropsEllipsis part title ellipsis ∧
      Script.title (.live script) = .ok (String.ofList title) (.live script) ∧
      (unmarked.head? = some '<' → unmarked.getLast? ≠ some '/' → '/' ∉ title) ∧
      (ellipsis ≠ [] → ¬periods <:+: title) := by
  obtain ⟨ellipsis, drops⟩ := dropsEllipsis_strip (lastPathPart unmarked)
  refine ⟨_, ellipsis, _, lastPathPart_cases unmarked, drops, ?_, ?_, drops.not_infix⟩
  · rw [← read]
    exact Script.title_eq script labelled
  · intro opens ends held
    apply not_mem_lastPathPart opens ends
    rw [drops.whole]
    exact List.mem_append_left _ held

/-- A script in a menu, with markers in its path and an ellipsis after it. -/
def inMenu : LiveScript where
  profile := { Profile.plain "s" with menuLabel := .text "<Image>/Fi_lters/Gaussian _Blur..." }
  slots := []
  held := false

theorem Script.title_of_label_inMenu :
    inMenu.profile.menuLabel = .text "<Image>/Fi_lters/Gaussian _Blur..." ∧
      stripMnemonicChars "<Image>/Fi_lters/Gaussian _Blur...".toList =
        "<Image>/Filters/Gaussian Blur...".toList ∧
      ∃ title, Script.title (.live inMenu) = .ok (String.ofList title) (.live inMenu) ∧
        String.ofList title = "Gaussian Blur" ∧ '/' ∉ title := by
  have read : stripMnemonicChars "<Image>/Fi_lters/Gaussian _Blur...".toList =
      "<Image>/Filters/Gaussian Blur...".toList := by cbv
  have cut : plainTitleChars "<Image>/Filters/Gaussian Blur...".toList =
      "Gaussian Blur".toList := by decide
  have said := Script.title_eq inMenu rfl
  rw [read, cut] at said
  obtain ⟨_, _, title, _, _, titled, plain, _⟩ := title_of_label inMenu rfl read
  rw [titled] at said
  injection said with same
  exact ⟨rfl, read, title, titled, same, plain (by decide) (by decide)⟩

/-- Of four periods the first three are the first ellipsis, so that none is dropped. -/
example : stripEllipsisChars "More....".toList = "More....".toList := by decide

end ScriptCatalog
