import ScriptCatalog.Proofs.Tool.Presenting

/-! Command lines. Whatever is understood asks for names, or for the empty list of values that `--`
leaves. Every name but `--` can be asked for, in the word of its switch, or in a word of its own if
it starts with no dash. -/

namespace ScriptCatalog

variable [Platform]

namespace ToolOptions

open Tool

/-! What can be asked for. -/

/-- That names are asked for, or what `--` leaves. -/
def AsksNames (options : ToolOptions) : Prop := ∀ value ∈ asked options, IsAsked value

variable {options changed : ToolOptions}

theorem isAsked_givenValue (word : String) : IsAsked (givenValue word) := by
  rw [givenValue]
  split
  · exact .inl rfl
  · exact .inr ⟨word, rfl⟩

theorem AsksNames.setFlag (asks : AsksNames options) {found : Switch}
    (given : options.setFlag found = .ok changed) : AsksNames changed := by
  cases found <;> cases given <;> exact asks

theorem AsksNames.setFlags (asks : AsksNames options) {flags : List Switch}
    (given : options.setFlags flags = .ok changed) : AsksNames changed := by
  induction flags generalizing options with
  | nil =>
      cases given
      exact asks
  | cons found flags ih =>
      obtain ⟨between, first, given⟩ := (Except.bind_eq_ok _ _ _).mp given
      exact ih (asks.setFlag first) given

theorem AsksNames.setValue (asks : AsksNames options) {word : String} {found : Switch}
    (given : options.setValue word found = .ok changed) : AsksNames changed := by
  obtain ⟨scriptFile, list, describe, command, precision, settings, config, verbose⟩ := options
  simp only [AsksNames, asked, List.forall_mem_append] at asks ⊢
  cases found with
  | describe =>
      cases given
      exact ⟨List.forall_mem_singleton.mpr (isAsked_givenValue word), asks.2⟩
  | command =>
      cases given
      exact ⟨asks.1, List.forall_mem_singleton.mpr (isAsked_givenValue word)⟩
  | config =>
      cases given
      exact asks
  | precision =>
      obtain ⟨precision, _, given⟩ := (Except.bind_eq_ok _ _ _).mp given
      cases given
      exact asks
  | _ => cases given

theorem AsksNames.read (asks : AsksNames options) {named understood : Bool} {words : List Word}
    (given : options.read named understood words = .ok changed) : AsksNames changed := by
  -- Only values and flags change what is asked for. A file, a separator and what is unknown do not.
  fun_induction ToolOptions.read options named understood words with
  | case1 => cases given; exact asks
  | case3 => cases given; exact asks
  | case5 => cases given; exact asks
  | case8 _ _ _ _ ih => exact ih asks given
  | case9 => cases given; exact asks
  | case11 _ _ _ _ _ _ _ ih => exact ih asks given
  | case12 _ _ _ _ ih => exact ih asks given
  | case13 _ _ _ _ _ _ _ _ ih | case14 _ _ _ _ _ _ _ _ ih =>
      obtain ⟨between, set, given⟩ := (Except.bind_eq_ok _ _ _).mp given
      exact ih between (asks.setValue set) given
  | case16 _ _ _ _ _ _ _ _ ih =>
      obtain ⟨flags, _, given⟩ := (Except.bind_eq_ok _ _ _).mp given
      obtain ⟨between, set, given⟩ := (Except.bind_eq_ok _ _ _).mp given
      exact ih between (asks.setFlags set) given
  | _ => cases given

theorem asksNames_ofWords {words : List String} (understood : ofWords words = .ok options) :
    AsksNames options := by
  have nothing : AsksNames none := nofun
  unfold ofWords at understood
  split at understood
  · cases understood
  · exact nothing.read understood

/-! Asking for names. -/

/-- Words that ask for something by a name, or for nothing. A name stands in the word of the switch,
or after it if it starts with no dash. -/
inductive Spells (spelling : String) : Option String → List String → Prop
  | unasked : Spells spelling .none []
  | attached {name : String} (other : name ≠ "--") :
      Spells spelling (some name) [spelling ++ "=" ++ name]
  | apart {name : String} (undashed : name.toList.head? ≠ some '-') :
      Spells spelling (some name) [spelling, name]

theorem classify?_undashed {word : String} (undashed : word.toList.head? ≠ some '-') :
    Word.classify? word = some (.plain word) := by
  have plain : (word.toList.head? != some '-' || word.toList.length == 1) = true := by
    rw [Bool.or_eq_true, bne_iff_ne]
    exact .inl undashed
  simp only [Word.classify?, plain, if_true]

theorem no_spelling_has_equals : ∀ entry ∈ Switch.spellings, '=' ∉ entry.1.toList := by decide

theorem ofSpelling?_of_equals {word : String} (equals : '=' ∈ word.toList) :
    Switch.ofSpelling? word = .none := by
  rw [Switch.ofSpelling?, List.lookup_eq_none_iff]
  intro entry member
  rw [bne_iff_ne]
  rintro rfl
  exact no_spelling_has_equals entry member equals

theorem splitEquals_attached {spelling : String} (name : String)
    (without : '=' ∉ spelling.toList) :
    Word.splitEquals (spelling ++ "=" ++ name).toList = (spelling, some name) := by
  have characters : (spelling ++ "=" ++ name).toList = spelling.toList ++ '=' :: name.toList := by
    simp [String.toList_append]
  have before : (spelling.toList ++ '=' :: name.toList).takeWhile (· != '=') = spelling.toList := by
    rw [List.takeWhile_append_of_pos, List.takeWhile_cons]
    · simp
    · intro c member
      rw [bne_iff_ne]
      rintro rfl
      exact without member
  have dropped : (spelling.toList ++ '=' :: name.toList).drop (spelling.toList.length + 1) =
      name.toList := by
    simp [List.drop_append]
  rw [characters, Word.splitEquals, before, dropped]
  simp

section

variable {spelling : String} {found : Switch} (known : Switch.ofSpelling? spelling = some found)
  (long : ∃ rest, spelling.toList = '-' :: '-' :: rest)

include known

theorem without_equals_of_spelling : '=' ∉ spelling.toList := by
  intro equals
  rw [ofSpelling?_of_equals equals] at known
  cases known

theorem ne_separator_of_spelling : spelling ≠ "--" := by
  rintro rfl
  have unknown : Switch.ofSpelling? "--" = .none := by decide
  rw [unknown] at known
  cases known

include long

theorem classify?_spelling : Word.classify? spelling = some (.switch found false .none) := by
  obtain ⟨rest, characters⟩ := long
  simp [Word.classify?, known, characters]

theorem classify?_attached (name : String) :
    Word.classify? (spelling ++ "=" ++ name) = some (.switch found false (some name)) := by
  have unspelled : Switch.ofSpelling? (spelling ++ "=" ++ name) = .none :=
    ofSpelling?_of_equals (by simp [String.toList_append])
  have parts := splitEquals_attached name (without_equals_of_spelling known)
  obtain ⟨rest, dashes⟩ := long
  have characters : (spelling ++ "=" ++ name).toList =
      '-' :: '-' :: (rest ++ '=' :: name.toList) := by
    simp [String.toList_append, dashes]
  rw [characters] at parts
  simp [Word.classify?, unspelled, characters, parts, known]

end

theorem classifyAll?_cons {word : String} {first : Word} (other : word ≠ "--")
    (classified : Word.classify? word = some first) (rest : List String) :
    Word.classifyAll? (word :: rest) = (Word.classifyAll? rest).map (first :: ·) := by
  have apart : (word == "--") = false := beq_eq_false_iff_ne.mpr other
  rw [Word.classifyAll?, apart, classified]
  cases Word.classifyAll? rest <;> rfl

theorem ne_separator_of_undashed {word : String} (undashed : word.toList.head? ≠ some '-') :
    word ≠ "--" := by
  rintro rfl
  exact undashed (by decide)

/-- Words that give a switch a name set its value, whatever stands around them. -/
theorem Spells.reads {spelling : String} (found : Switch)
    (known : Switch.ofSpelling? spelling = some found)
    (long : ∃ rest, spelling.toList = '-' :: '-' :: rest) (takes : found.takesValue = true)
    {chosen : Option String} {words : List String} (spelled : Spells spelling chosen words) :
    ∃ classified : List Word,
      (∀ rest, Word.classifyAll? (words ++ rest) =
        (Word.classifyAll? rest).map (classified ++ ·)) ∧
      ∀ options named understood rest,
        ToolOptions.read options named understood (classified ++ rest) =
          (match chosen with
            | .none => .ok options
            | some name => options.setValue name found) >>= fun changed =>
              ToolOptions.read changed named understood rest := by
  cases spelled with
  | unasked =>
      refine ⟨[], fun rest => ?_, fun _ _ _ _ => rfl⟩
      simp
  | @attached name other =>
      have apart : spelling ++ "=" ++ name ≠ "--" := by
        intro same
        have equals : '=' ∈ (spelling ++ "=" ++ name).toList := by simp [String.toList_append]
        rw [same] at equals
        exact absurd equals (by decide)
      refine ⟨[.switch found false (some name)], ?_, fun options named understood rest => ?_⟩
      · exact classifyAll?_cons apart (classify?_attached known long name)
      · simp only [List.singleton_append, ToolOptions.read, takes, if_true]
  | @apart name undashed =>
      refine ⟨[.switch found false .none, .plain name], fun rest => ?_,
        fun options named understood rest => ?_⟩
      · have first := classifyAll?_cons (ne_separator_of_spelling known)
          (classify?_spelling known long) (name :: rest)
        have second := classifyAll?_cons (ne_separator_of_undashed undashed)
          (classify?_undashed undashed) rest
        rw [List.cons_append, List.singleton_append, first, second, Option.map_map]
        rfl
      · simp only [List.cons_append, List.nil_append, ToolOptions.read, takes, if_true]

theorem Spells.given {spelling : String} {chosen : Option String} {words : List String}
    (spelled : Spells spelling chosen words) :
    chosen.map givenValue = chosen.map Datum.text := by
  cases spelled with
  | unasked => rfl
  | attached other => simp [givenValue, other]
  | apart undashed => simp [givenValue, ne_separator_of_undashed undashed]

theorem reads_list (list : Bool) :
    ∃ flags : List Word,
      (∀ rest, Word.classifyAll? ((if list then ["--list"] else []) ++ rest) =
        (Word.classifyAll? rest).map (flags ++ ·)) ∧
      ∀ rest, ToolOptions.read none false true (flags ++ rest) =
        ToolOptions.read { none with list } false true rest := by
  cases list with
  | false =>
      refine ⟨[], fun rest => ?_, fun _ => rfl⟩
      simp
  | true =>
      have spelled : Word.classify? "--list" = some (.switch .list false .none) :=
        classify?_spelling (by decide) ⟨"list".toList, by decide⟩
      refine ⟨[.switch .list false .none], classifyAll?_cons (by decide) spelled, fun rest => ?_⟩
      rw [List.singleton_append, ToolOptions.read.eq_def]
      rfl

/-- Every name can be asked for. -/
theorem ofWords_asking {file : String} (undashed : file.toList.head? ≠ some '-') (list : Bool)
    {described commanded : Option String} {describing commanding : List String}
    (describes : Spells "--describe" described describing)
    (commands : Spells "--command" commanded commanding) :
    ofWords ((if list then ["--list"] else []) ++ describing ++ commanding ++ [file]) =
      .ok { none with
            scriptFile := some file
            list
            describe := described.map .text
            command := commanded.map .text } := by
  obtain ⟨first, classifyFirst, readFirst⟩ :=
    describes.reads .describe (by decide) ⟨"describe".toList, by decide⟩ rfl
  obtain ⟨second, classifySecond, readSecond⟩ :=
    commands.reads .command (by decide) ⟨"command".toList, by decide⟩ rfl
  have last : Word.classifyAll? [file] = some [.plain file] :=
    classifyAll?_cons (ne_separator_of_undashed undashed) (classify?_undashed undashed) []
  obtain ⟨flags, classifyFlags, readFlags⟩ := reads_list list
  have whole : Word.classifyAll?
      ((if list then ["--list"] else []) ++ (describing ++ (commanding ++ [file]))) =
        some (flags ++ (first ++ (second ++ [.plain file]))) := by
    rw [classifyFlags, classifyFirst, classifySecond, last]
    rfl
  have givenFirst := describes.given
  have givenSecond := commands.given
  rw [List.append_assoc, List.append_assoc, ofWords, whole]
  dsimp only
  rw [readFlags, readFirst, ← givenFirst, ← givenSecond]
  cases described <;>
    · refine (readSecond _ _ _ _).trans ?_
      cases commanded <;> rfl

end ToolOptions

end ScriptCatalog
