import ScriptCatalog.Proofs.Json.Digits
import ScriptCatalog.Proofs.Script.Serviceable
import ScriptCatalog.Script.File

/-! What the entries of a script file define. A file loads if and only if each of its entries
defines a script: it has a name, texts for the rest of what a script says, and a list of lists that
are valid declarations. -/

namespace ScriptCatalog

variable [Platform]

/-- A script as it is defined: what it says about itself, and its arguments. -/
structure Definition where
  texts : ScriptTexts
  arguments : List Argument

namespace Definition

def script (definition : Definition) : Script :=
  .ofArguments definition.texts.profile definition.arguments

theorem script_injective : Function.Injective script := by
  rintro ⟨texts, arguments⟩ ⟨otherTexts, others⟩ same
  obtain ⟨profile, rfl⟩ := Script.ofArguments_inj same
  obtain rfl := ScriptTexts.profile_injective profile
  rfl

/-- The last definition of a name. -/
def last? (name : String) (definitions : List Definition) : Option Definition :=
  definitions.reverse.find? (·.texts.name == name)

theorem last?_append (name : String) (definitions : List Definition) (next : Definition) :
    last? name (definitions ++ [next]) =
      if next.texts.name == name then some next else last? name definitions := by
  rw [last?, List.reverse_append, List.reverse_singleton, List.singleton_append, List.find?_cons]
  cases next.texts.name == name <;> rfl

theorem last?_eq_none_iff (name : String) (definitions : List Definition) :
    last? name definitions = none ↔ ∀ definition ∈ definitions, definition.texts.name ≠ name := by
  simp [last?]

theorem last?_eq_some {name : String} {definitions : List Definition} {found : Definition}
    (last : last? name definitions = some found) :
    found ∈ definitions ∧ found.texts.name = name := by
  refine ⟨List.mem_reverse.mp (List.mem_of_find?_eq_some last), ?_⟩
  have same := List.find?_some last
  exact eq_of_beq same

end Definition

/-- The text in a field, which is empty where there is no such field. -/
def Json.textIn? (entry : Json) (field : String) : Option String :=
  match entry.field? field with
  | none => some ""
  | some (.string words) => some words
  | some _ => none

theorem Datum.ofJson_eq_text_iff (value : Json) (words : String) :
    ofJson value = .text words ↔ value = .string words := by
  cases value <;> simp [ofJson]

theorem Json.textIn?_eq_some_iff (entry : Json) (field words : String) :
    entry.textIn? field = some words ↔
      ((entry.field? field).map Datum.ofJson).getD (.text "") = .text words := by
  rw [textIn?]
  cases entry.field? field with
  | none => simp
  | some value => cases value <;> simp [Datum.ofJson]

theorem Datum.items?_of_items {value : Datum} {items : List Datum}
    (held : value.items = .ok items) :
    value.items? = some items := by
  unfold Datum.items at held
  split at held
  next found =>
    cases held
    exact found
  next => cases held

/-- What is made of a default that was read can be written out. -/
theorem Payload.hasFewDigits_of_accepts {types : EnumTypes} {form : PayloadKind} {default : Datum}
    {payload : Payload} (accepts : Accepts types form default payload) (isRead : default.IsRead) :
    payload.hasFewDigits = true := by
  cases accepts with
  | noItem => exact isShort_of_natAbs_lt (by decide)
  | item id => exact isRead.isShort
  | brush listed typed number =>
      rw [hasFewDigits, Bool.and_eq_true]
      exact ⟨(isRead.of_mem_sequence? listed (by simp)).isShort,
        (isRead.of_mem_sequence? listed (by simp)).isShort⟩
  | _ => rfl

namespace Registration

/-- An entry of a file and the script that it defines. -/
structure Defines (types : EnumTypes) (entry : Json) (definition : Definition) : Prop where
  isObject : ∃ fields, entry = .object fields
  name : entry.field? "name" = some (.string definition.texts.name)
  named : definition.texts.name ≠ ""
  menuLabel : entry.textIn? "menu_label" = some definition.texts.menuLabel
  blurb : entry.textIn? "blurb" = some definition.texts.blurb
  author : entry.textIn? "author" = some definition.texts.author
  copyright : entry.textIn? "copyright" = some definition.texts.copyright
  date : entry.textIn? "date" = some definition.texts.date
  imageTypes : entry.textIn? "image_types" = some definition.texts.imageTypes
  declared : ∃ declarations,
    fileDeclarations ((entry.field? "args").getD (.array [])) = .ok declarations ∧
      List.Forall₂ (Declares types) declarations definition.arguments

variable {types : EnumTypes} {path : String} {index : Nat} {entry : Json}
  {journal after : Journal} {script : Script} {definition : Definition}

theorem isRead_of_fileDeclarations {args : Json} {declarations : List Datum} {declaration : Datum}
    (short : args.hasFewDigits = true) (listed : fileDeclarations args = .ok declarations)
    (member : declaration ∈ declarations) :
    ∃ items, declaration = .tuple items ∧ ∀ item ∈ items, item.IsRead := by
  have isRead : (Datum.ofJson args).IsRead := ⟨args, short, rfl⟩
  obtain ⟨written, held, filed⟩ := (Except.bind_eq_ok _ _ _).mp listed
  obtain ⟨value, inWritten, made⟩ :=
    exists_mem_of_forall₂ ((mapM_eq_ok_iff _ _ _).mp filed) member
  obtain ⟨items, itemsHeld, same⟩ := (Except.bind_eq_ok _ _ _).mp made
  cases same
  refine ⟨items, rfl, fun item inItems => ?_⟩
  have valueRead := isRead.of_mem_items? (Datum.items?_of_items held) inWritten
  exact valueRead.of_mem_items? (Datum.items?_of_items itemsHeld) inItems

/-- What a file declares can be written out. -/
theorem Defines.serves (defines : Defines types entry definition)
    (short : entry.hasFewDigits = true) :
    ∀ argument ∈ definition.arguments, argument.Serves types True := by
  intro argument member
  obtain ⟨declarations, listed, declared⟩ := defines.declared
  obtain ⟨declaration, inDeclarations, declares⟩ := exists_mem_of_forall₂ declared member
  refine declares.serves fun _ => ?_
  have shortArgs : ((entry.field? "args").getD (.array [])).hasFewDigits = true := by
    cases there : entry.field? "args" with
    | none => rfl
    | some args => exact Json.hasFewDigits_of_field? short there
  obtain ⟨items, rfl, isRead⟩ := isRead_of_fileDeclarations shortArgs listed inDeclarations
  cases declares with
  | intro parts typed accepted =>
      cases parts
      exact Payload.hasFewDigits_of_accepts accepted (isRead _ (by simp))

/-- An entry with no more than a name. -/
theorem defines_plain {name : String} (named : name ≠ "") :
    Defines types (.object [("name", .string name)]) ⟨ScriptTexts.plain name, []⟩ :=
  ⟨⟨_, rfl⟩, rfl, named, rfl, rfl, rfl, rfl, rfl, rfl, [], rfl, .nil⟩

theorem ofFileEntry_of_defines (path : String) (index : Nat)
    (defines : Defines types entry definition) :
    ∃ registration, ofFileEntry path index entry = .ok registration ∧
      registration.script types = .ok definition.script := by
  obtain ⟨declarations, listed, declared⟩ := defines.declared
  refine ⟨definition.texts.registration (.list declarations), ?_, ?_⟩
  · unfold ofFileEntry
    simp only [defines.name, listed, (Json.textIn?_eq_some_iff _ _ _).mp defines.menuLabel,
      (Json.textIn?_eq_some_iff _ _ _).mp defines.blurb,
      (Json.textIn?_eq_some_iff _ _ _).mp defines.author,
      (Json.textIn?_eq_some_iff _ _ _).mp defines.copyright,
      (Json.textIn?_eq_some_iff _ _ _).mp defines.date,
      (Json.textIn?_eq_some_iff _ _ _).mp defines.imageTypes]
    rfl
  · rw [script_of_texts types defines.named rfl, arguments_eq_ok_iff.mpr declared]
    rfl

theorem defines_of_ofFileEntry {registration : Registration} {fields : List (String × Json)}
    (filed : ofFileEntry path index (.object fields) = .ok registration)
    (given : registration.script types = .ok script) :
    ∃ definition, Defines types (.object fields) definition ∧ script = definition.script := by
  unfold ofFileEntry at filed
  dsimp only at filed
  cases name : Json.field? "name" (.object fields) with
  | none =>
      rw [name] at filed
      cases filed
  | some value =>
      rw [name] at filed
      obtain ⟨declarations, listed, same⟩ := (Except.bind_eq_ok _ _ _).mp filed
      cases same
      obtain ⟨texts, items, arguments, said, named, counted, rfl, declared⟩ :=
        declared_of_script given
      simp only [ScriptTexts.registration, Registration.mk.injEq] at said
      obtain ⟨isName, menuLabel, blurb, author, copyright, date, imageTypes, _⟩ := said
      cases counted
      refine ⟨⟨texts, arguments⟩, ⟨⟨fields, rfl⟩, ?_, named, ?_, ?_, ?_, ?_, ?_, ?_, ?_⟩, rfl⟩
      · rw [name, (Datum.ofJson_eq_text_iff _ _).mp isName]
      · exact (Json.textIn?_eq_some_iff _ _ _).mpr menuLabel
      · exact (Json.textIn?_eq_some_iff _ _ _).mpr blurb
      · exact (Json.textIn?_eq_some_iff _ _ _).mpr author
      · exact (Json.textIn?_eq_some_iff _ _ _).mpr copyright
      · exact (Json.textIn?_eq_some_iff _ _ _).mpr date
      · exact (Json.textIn?_eq_some_iff _ _ _).mpr imageTypes
      · exact ⟨_, listed, declared⟩

/-! Files. -/

variable {entries : List Json} {definitions : List Definition} {scripts : List Script}

theorem registerEntries_of_defines (path : String)
    (defined : List.Forall₂ (Defines types) entries definitions) (index : Nat)
    (journal : Journal) :
    ∃ after, registerEntries types path index entries journal =
      .ok (definitions.map Definition.script) after := by
  induction defined generalizing index journal with
  | nil => exact ⟨journal, rfl⟩
  | cons defines _ ih =>
      obtain ⟨fields, rfl⟩ := defines.isObject
      obtain ⟨registration, filed, given⟩ :=
        ofFileEntry_of_defines path index defines
      obtain ⟨between, registered⟩ := register_of_ok given journal
      obtain ⟨after, rest⟩ := ih (index + 1) between
      refine ⟨after, ?_⟩
      rw [registerEntries, filed]
      refine (Act.ofExcept_ok_bind _ _ _).trans ?_
      refine (Act.bind_of_ok _ registered).trans ?_
      exact Act.bind_of_ok _ rest

theorem defines_of_registerEntries
    (ran : registerEntries types path index entries journal = .ok scripts after) :
    ∃ definitions, List.Forall₂ (Defines types) entries definitions ∧
      scripts = definitions.map Definition.script := by
  -- An entry that is no object ends the loading, so that only objects are looked at below.
  induction entries generalizing index journal scripts with
  | nil =>
      cases ran
      exact ⟨[], .nil, rfl⟩
  | cons entry entries ih =>
      cases entry with
      | object fields =>
          obtain ⟨registration, filed, ran⟩ := (Act.bind_ofExcept_eq_ok _ _ _ _ _).mp ran
          obtain ⟨first, between, registered, ran⟩ := (Act.bind_eq_ok _ _ _ _ _).mp ran
          obtain ⟨others, _, rest, same⟩ := (Act.bind_eq_ok _ _ _ _ _).mp ran
          cases same
          obtain ⟨definition, defines, rfl⟩ :=
            defines_of_ofFileEntry filed (register_eq_ok registered)
          obtain ⟨definitions, defined, rfl⟩ := ih rest
          exact ⟨definition :: definitions, .cons defines defined, rfl⟩
      | _ => cases ran

theorem readEntries_of_read {files : Files} {text : String} (found : files.read path = .ok text)
    (document : Json.read text = .ok (.array entries)) : readEntries files path = .ok entries := by
  refine (Except.bind_eq_ok _ _ _).mpr ⟨text, found, ?_⟩
  simp only [document]
  rfl

theorem hasFewDigits_of_readEntries {files : Files} (read : readEntries files path = .ok entries) :
    ∀ entry ∈ entries, entry.hasFewDigits = true := by
  obtain ⟨text, _, read⟩ := (Except.bind_eq_ok _ _ _).mp read
  cases document : Json.read text with
  | error cause =>
      rw [document] at read
      cases cause <;> cases read
  | ok value =>
      have short := Json.hasFewDigits_of_read document
      rw [document] at read
      cases value <;> cases read
      exact (Json.itemsHaveFewDigits_iff entries).mp short

/-- A file loads if and only if each of its entries defines a script, and those are the scripts. -/
theorem loadFile_eq_ok_iff (files : Files) (journal : Journal) :
    (loadFile types files path).outcome journal = .ok scripts ↔
      ∃ entries definitions, readEntries files path = .ok entries ∧
        List.Forall₂ (Defines types) entries definitions ∧
        scripts = definitions.map Definition.script := by
  constructor
  · intro loaded
    obtain ⟨_, ran⟩ := Act.ok_of_outcome loaded
    obtain ⟨entries, read, ran⟩ := (Act.bind_ofExcept_eq_ok _ _ _ _ _).mp ran
    obtain ⟨registered, between, loaded, ran⟩ := (Act.bind_eq_ok _ _ _ _ _).mp ran
    obtain ⟨_, _, _, same⟩ := (Act.bind_eq_ok _ _ _ _ _).mp ran
    cases same
    obtain ⟨definitions, defined, rfl⟩ := defines_of_registerEntries loaded
    exact ⟨entries, definitions, read, defined, rfl⟩
  · rintro ⟨entries, definitions, read, defined, rfl⟩
    obtain ⟨between, loaded⟩ := registerEntries_of_defines path defined 0 journal
    rw [loadFile, read]
    exact Act.outcome_of_ok (Act.bind_of_ok _ loaded)

end Registration

end ScriptCatalog
