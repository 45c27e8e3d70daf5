import ScriptCatalog.Proofs.Tool.Loading

/-! Showing what a full table holds. Every line tells of the last definition of a name, and says
what the script of that definition gives by itself. -/

namespace ScriptCatalog

variable [Platform]

open Journal

namespace Tool

/-! Lines. -/

/-- A line with the title of a script. -/
def TellsTitle (definition : Definition) (line : String) : Prop :=
  ∃ title, Script.title definition.script = .ok title definition.script ∧
    line = s!"{definition.texts.name}: {title}"

/-- A line with the description of the procedure that is built from a script. -/
def TellsProcedure (definition : Definition) (line : String) : Prop :=
  ∃ procedure, Script.procedure .temporary definition.script = .ok procedure definition.script ∧
    line = describe procedure

/-- A line with the command of a script that still has its defaults. -/
def TellsCommand (precision : Precision) (definition : Definition) (line : String) : Prop :=
  Script.command precision definition.script = .ok line definition.script

/-- A line that tells of the last definition of a name. -/
def Presents (tells : Definition → String → Prop) (definitions : List Definition)
    (name line : String) : Prop :=
  ∃ definition, Definition.last? name definitions = some definition ∧ tells definition line

/-- Lines that were printed. -/
def printed (lines : List String) : Journal := lines.map fun line => .printed (line ++ "\n")

theorem printed_append (first second : List String) :
    printed (first ++ second) = printed first ++ printed second := List.map_append

theorem lines_printed (lines : List String) : (printed lines).lines = printed lines := by
  rw [Journal.lines, List.filter_eq_self]
  intro entry member
  obtain ⟨line, _, rfl⟩ := List.mem_map.mp member
  rfl

theorem output_printed (lines : List String) :
    output false (printed lines) = String.join (lines.map (· ++ "\n")) := by
  rw [output, printed, List.map_map]
  rfl

theorem complaints_printed (lines : List String) : complaints (printed lines) = "" := by
  induction lines with
  | nil => rfl
  | cons line lines ih =>
      have first : complaints (printed [line]) = "" := rfl
      rw [← List.singleton_append, printed_append, complaints_append, first, ih]
      rfl

end Tool

namespace Catalog

/-- A catalog with lines printed. -/
def print (lines : List String) (catalog : Catalog) : Catalog :=
  { catalog with journal := catalog.journal ++ Tool.printed lines }

variable {definitions done : List Definition} {catalog : Catalog}
  {entries : List (String × ScriptId)} {procedures : List (String × Procedure)}

theorem print_print (first second : List String) (catalog : Catalog) :
    print second (print first catalog) = print (first ++ second) catalog := by
  simp [print, Tool.printed_append]

theorem lines_print (lines : List String) (catalog : Catalog) :
    (print lines catalog).journal.lines = catalog.journal.lines ++ Tool.printed lines := by
  rw [print, Journal.lines_append, Tool.lines_printed]

theorem print_nil (catalog : Catalog) : print [] catalog = catalog := by
  simp [print, Tool.printed]

theorem Filled.print (filled : Filled definitions done catalog entries procedures)
    (lines : List String) : Filled definitions done (print lines catalog) entries procedures := by
  obtain ⟨⟨tabled, installed, distinct, sameNames, allowed, current, _⟩, temporary, unknown, last,
    added, waiting⟩ := filled
  exact ⟨⟨tabled, installed, distinct, sameNames, allowed, current,
    nofun⟩, temporary, unknown, last, added, waiting⟩

end Catalog

namespace Tool

open Workspace
open Catalog (Full sortedNames)

variable (base : Workspace) {definitions : List Definition} {catalog : Catalog}
  {entries : List (String × ScriptId)} {procedures : List (String × Procedure)}

/-! One script. -/

theorem exists_title (definition : Definition) :
    ∃ title, Script.title definition.script = .ok title definition.script := by
  have told : Script.told (·.menuLabel) definition.script =
      .ok (.text definition.texts.menuLabel) definition.script := Script.told_text _ rfl
  exact ⟨String.ofList (plainTitleChars (stripMnemonicChars definition.texts.menuLabel.toList)),
    Act.bind_of_ok _ told⟩

theorem onScript_shelve {α : Type} {id : ScriptId} {act : ScriptAct α} {script : Script}
    {value : α} (there : catalog.scripts[id]? = some script) (ran : act script = .ok value script) :
    onScript id act (base.shelve catalog) = .ok value (base.shelve catalog) := by
  have held : (base.shelve catalog).scripts[id]? = some script := there
  obtain ⟨inside, same⟩ := List.getElem?_eq_some_iff.mp there
  have kept : (base.shelve catalog).scripts.set id script = catalog.scripts := by
    rw [← same]
    exact List.set_getElem_self inside
  simp only [onScript, held, ran, kept]
  rfl

theorem onScript_shelve_of_error {α : Type} {id : ScriptId} {act : ScriptAct α} {script : Script}
    {fault : Fault} (there : catalog.scripts[id]? = some script)
    (ran : act script = .error fault script) :
    onScript id act (base.shelve catalog) = .error fault (base.shelve catalog) := by
  have held : (base.shelve catalog).scripts[id]? = some script := there
  obtain ⟨inside, same⟩ := List.getElem?_eq_some_iff.mp there
  have kept : (base.shelve catalog).scripts.set id script = catalog.scripts := by
    rw [← same]
    exact List.set_getElem_self inside
  simp only [onScript, held, ran, kept]
  rfl

theorem scriptNamed_shelve (filled : Full definitions catalog entries procedures)
    {name : String} {id : ScriptId} (found : entries.lookup name = some id) :
    scriptNamed 0 (.text name) (base.shelve catalog) = .ok id (base.shelve catalog) := by
  have there : find (base.shelve catalog).tables 0 (base.shelve catalog) =
      .ok { table := catalog.table, registry := some 0 } (base.shelve catalog) := rfl
  rw [scriptNamed, Act.get_bind, Act.bind_of_ok _ there,
    Catalog.find_underTexts _ filled.inStep.tabled, found]
  rfl

theorem listScript_shelve (filled : Full definitions catalog entries procedures)
    {name : String} {definition : Definition}
    (last : Definition.last? name definitions = some definition) :
    ∃ line, TellsTitle definition line ∧
      listScript 0 (.text name) (base.shelve catalog) =
        .ok () (base.shelve (catalog.print [line])) := by
  obtain ⟨id, found, held⟩ := filled.last name definition last
  obtain ⟨title, given⟩ := exists_title definition
  refine ⟨_, ⟨title, given, rfl⟩, ?_⟩
  rw [listScript, Act.bind_of_ok _ (scriptNamed_shelve base filled found),
    Act.bind_of_ok _ (onScript_shelve base held given), (Definition.last?_eq_some last).2]
  rfl

theorem describeScript_shelve (filled : Full definitions catalog entries procedures)
    {name : String} {definition : Definition}
    (last : Definition.last? name definitions = some definition) :
    ∃ line, TellsProcedure definition line ∧
      describeScript 0 (.text name) (base.shelve catalog) =
        .ok () (base.shelve (catalog.print [line])) := by
  have built := Script.procedure_ofArguments .temporary definition.texts.profile
    definition.arguments definition.texts.allTexts_profile
  refine ⟨_, ⟨_, built, rfl⟩, ?_⟩
  have there : find (base.shelve catalog).registries 0 (base.shelve catalog) =
      .ok (.ofTexts procedures) (base.shelve catalog) := by
    have registries : (base.shelve catalog).registries = [.ofTexts procedures] := by
      change catalog.registry.toList = _
      rw [filled.inStep.installed]
      rfl
    rw [registries]
    rfl
  have found : Registry.find? (.ofTexts procedures) (.text name) =
      .ok (some (.exported .temporary definition.texts.profile definition.arguments)) := by
    change Except.ok ((underTexts procedures).lookup (.text name)) = _
    rw [lookup_underTexts, filled.procedure last]
  rw [describeScript, Act.get_bind, Act.bind_of_ok _ there, found]
  rfl

/-- A fault of writing the command of a script, which there is only for decimal places that cannot
be had. -/
def Unwritten (precision : Precision) (definition : Definition) (fault : Fault) : Prop :=
  (∀ places, precision.count ≠ .ok places) ∧
    Script.command precision definition.script = .error fault definition.script

theorem command_cases (precision : Precision) {types : EnumTypes} {definition : Definition}
    (serve : ∀ argument ∈ definition.arguments, argument.Serves types True) :
    (∃ line, TellsCommand precision definition line) ∨
      ∃ fault, Unwritten precision definition fault := by
  rcases Script.reads_command precision definition.script with ⟨line, ran⟩ | ⟨fault, failed⟩
  · exact .inl ⟨line, ran⟩
  · refine .inr ⟨fault, fun places counted => ?_, failed⟩
    obtain ⟨words, rendered⟩ := Script.tokens_written counted trivial serve
    have given := Script.command_ofArguments precision definition.texts.profile
      definition.arguments definition.texts.name words rfl rendered
    cases failed.symm.trans given

theorem commandScript_shelve (filled : Full definitions catalog entries procedures)
    {types : EnumTypes} {name : String} {definition : Definition}
    (last : Definition.last? name definitions = some definition)
    (serve : ∀ argument ∈ definition.arguments, argument.Serves types True)
    (precision : Precision) :
    (∃ line, TellsCommand precision definition line ∧
      commandScript 0 precision (.text name) (base.shelve catalog) =
        .ok () (base.shelve (catalog.print [line]))) ∨
    ∃ fault, Unwritten precision definition fault ∧
      commandScript 0 precision (.text name) (base.shelve catalog) =
        .error fault (base.shelve catalog) := by
  obtain ⟨id, found, held⟩ := filled.last name definition last
  have named := scriptNamed_shelve base filled found
  rcases command_cases precision serve with ⟨line, given⟩ | ⟨fault, unusable, failed⟩
  · refine .inl ⟨line, given, ?_⟩
    rw [commandScript, Act.bind_of_ok _ named, Act.bind_of_ok _ (onScript_shelve base held given)]
    rfl
  · refine .inr ⟨fault, ⟨unusable, failed⟩, ?_⟩
    rw [commandScript, Act.bind_of_ok _ named]
    exact Act.bind_of_error _ (onScript_shelve_of_error base held failed)

/-! All names, and those that are asked for. -/

theorem forM_listScript (filled : Full definitions catalog entries procedures)
    (names : List String) (known : ∀ name ∈ names, name ∈ sortedNames entries) :
    ∃ titles, List.Forall₂ (Presents TellsTitle definitions) names titles ∧
      (names.map Datum.text).forM (listScript 0) (base.shelve catalog) =
        .ok () (base.shelve (catalog.print titles)) := by
  induction names generalizing catalog with
  | nil =>
      refine ⟨[], .nil, ?_⟩
      rw [Catalog.print_nil]
      rfl
  | cons name names ih =>
      obtain ⟨definition, last⟩ := filled.last_of_mem (known name List.mem_cons_self)
      obtain ⟨title, tells, first⟩ := listScript_shelve base filled last
      obtain ⟨titles, tellsOthers, rest⟩ :=
        ih (filled.print [title]) fun other member => known other (List.mem_cons_of_mem _ member)
      refine ⟨title :: titles, .cons ⟨definition, last, tells⟩ tellsOthers, ?_⟩
      rw [Catalog.print_print] at rest
      exact (Act.bind_of_ok _ first).trans rest

/-- What the command line can ask for: a name, or the empty list that `--` leaves. -/
def IsAsked (value : Datum) : Prop := value = .list [] ∨ ∃ name, value = .text name

theorem missingName_cases (filled : Full definitions catalog entries procedures)
    {asked : List Datum} (given : ∀ value ∈ asked, IsAsked value) :
    (missingName catalog.table asked = .ok none ∧
      ∀ value ∈ asked, ∃ name ∈ sortedNames entries, value = .text name) ∨
    (∃ name ∉ sortedNames entries, .text name ∈ asked ∧
      missingName catalog.table asked = .ok (some (.text name))) ∨
    .list [] ∈ asked ∧ missingName catalog.table asked = .error (.unhashable .list) := by
  induction asked with
  | nil => exact .inl ⟨rfl, nofun⟩
  | cons value asked ih =>
      rcases given value List.mem_cons_self with rfl | ⟨name, rfl⟩
      · exact .inr (.inr ⟨List.mem_cons_self, rfl⟩)
      · have known : name ∈ sortedNames entries ↔ (entries.lookup name).isSome = true := by
          rw [Catalog.mem_sortedNames, lookup_isSome_iff_mem_keysOf]
        have contains := Catalog.contains_of_inStep filled.inStep name
        cases there : (entries.lookup name).isSome with
        | false =>
            refine .inr (.inl ⟨name, ?_, List.mem_cons_self, ?_⟩)
            · rw [known, there]
              exact Bool.false_ne_true
            · rw [missingName, contains, there]
              rfl
        | true =>
            have skipped : missingName catalog.table (.text name :: asked) =
                missingName catalog.table asked := by
              rw [missingName, contains, there]
              rfl
            rw [skipped]
            have others := ih fun other member => given other (List.mem_cons_of_mem _ member)
            rcases others with ⟨none, all⟩ | ⟨missing, unknown, later, found⟩ | ⟨later, failed⟩
            · refine .inl ⟨none, List.forall_mem_cons.mpr ⟨⟨name, ?_, rfl⟩, all⟩⟩
              rw [known, there]
            · exact .inr (.inl ⟨missing, unknown, List.mem_cons_of_mem _ later, found⟩)
            · exact .inr (.inr ⟨List.mem_cons_of_mem _ later, failed⟩)

/-! The whole. -/

/-- What is asked of the scripts of a file. -/
def asked (options : ToolOptions) : List Datum := options.describe.toList ++ options.command.toList

/-- How showing the scripts ends, and what is written after the titles: everything that is asked
for, or that there is no script of some name. What is no name at all breaks it off, and so does a
command that cannot be written. -/
inductive Shown (options : ToolOptions) (definitions : List Definition) (precision : Precision)
    (names : List String) : Except Fault Nat → Journal → Prop
  | everything {described commanded : Option String} {descriptions commands : List String}
      (describe : options.describe = described.map .text)
      (command : options.command = commanded.map .text)
      (known : ∀ name ∈ described.toList ++ commanded.toList, name ∈ names)
      (described : List.Forall₂ (Presents TellsProcedure definitions) described.toList descriptions)
      (commanded : List.Forall₂ (Presents (TellsCommand precision) definitions) commanded.toList
        commands) :
      Shown options definitions precision names (.ok 0) (printed (descriptions ++ commands))
  | missing {name : String} (inAsked : .text name ∈ asked options) (unknown : name ∉ names) :
      Shown options definitions precision names (.ok 1)
        [.complained (s!"No script named \"{name}\"" ++ "\n")]
  | unwritten {described : Option String} {name : String} {definition : Definition}
      {descriptions : List String} {fault : Fault}
      (describe : options.describe = described.map .text)
      (command : options.command = some (.text name))
      (known : ∀ other ∈ described.toList ++ [name], other ∈ names)
      (described : List.Forall₂ (Presents TellsProcedure definitions) described.toList descriptions)
      (last : Definition.last? name definitions = some definition)
      (failed : Unwritten precision definition fault) :
      Shown options definitions precision names (.error fault) (printed descriptions)
  | unasked (inAsked : .list [] ∈ asked options) :
      Shown options definitions precision names (.error (.unhashable .list)) []

theorem text_of_option {option : Option Datum} {names : List String}
    (texts : ∀ value ∈ option.toList, ∃ name ∈ names, value = .text name) :
    ∃ chosen : Option String, option = chosen.map .text ∧ ∀ name ∈ chosen.toList, name ∈ names := by
  cases option with
  | none => exact ⟨none, rfl, nofun⟩
  | some value =>
      obtain ⟨name, member, rfl⟩ := texts value List.mem_cons_self
      refine ⟨some name, rfl, fun other same => ?_⟩
      rw [List.mem_singleton.mp same]
      exact member

/-- Describes a procedure, if one is asked for. -/
def showDescription (described : Option Datum) : Act Workspace Unit :=
  match described with
  | some name => describeScript 0 name
  | none => pure ()

/-- Prints a command, if one is asked for. Only then are decimal places needed. -/
def showCommand (precision : Except Fault Precision) (commanded : Option Datum) :
    Act Workspace Unit :=
  match commanded with
  | some name => do commandScript 0 (← Act.ofExcept precision) name
  | none => pure ()

/-- Shows what is asked for, after the titles. -/
def showAsked (options : ToolOptions) (precision : Except Fault Precision)
    (table : ScriptTable) : Act Workspace Nat := do
  match ← Act.ofExcept (missingName table (asked options)) with
  | some name =>
      complain s!"No script named \"{name.display}\""
      return 1
  | none =>
      showDescription options.describe
      showCommand precision options.command
      onTable 0 Catalog.clear
      return 0

/-- The decimal places that commands are shown with: those asked for, or those of the settings. -/
def placesOf (options : ToolOptions) (config : Config) : Except Fault Precision :=
  options.precision.elim config.getPrecision .ok

theorem present_eq (options : ToolOptions) (config : Config)
    (filled : Full definitions catalog entries procedures) :
    present options config 0 0 (base.shelve catalog) =
      (do
        ((if options.list then sortedNames entries else []).map Datum.text).forM
          (listScript 0)
        showAsked options (placesOf options config) catalog.table : Act Workspace Nat)
          (base.shelve catalog) := by
  have there : find (base.shelve catalog).tables 0 (base.shelve catalog) =
      .ok { table := catalog.table, registry := some 0 } (base.shelve catalog) := rfl
  have names := Catalog.names_of_inStep filled.inStep
  obtain ⟨scriptFile, list, describe, command, asked, settings, path, verbose⟩ := options
  rw [present, Act.get_bind, Act.bind_of_ok _ there]
  dsimp only
  rw [names, placesOf]
  generalize config.getPrecision = precision
  cases list <;> cases describe <;> cases command <;> cases asked <;> cases precision <;> rfl

theorem describe_asked (filled : Full definitions catalog entries procedures)
    (described : Option String)
    (known : ∀ name ∈ described.toList, name ∈ sortedNames entries) :
    ∃ lines, List.Forall₂ (Presents TellsProcedure definitions) described.toList lines ∧
      showDescription (described.map .text) (base.shelve catalog) =
        .ok () (base.shelve (catalog.print lines)) := by
  cases described with
  | none =>
      refine ⟨[], .nil, ?_⟩
      rw [Catalog.print_nil]
      rfl
  | some name =>
      obtain ⟨definition, last⟩ := filled.last_of_mem (known name List.mem_cons_self)
      obtain ⟨line, tells, ran⟩ := describeScript_shelve base filled last
      exact ⟨[line], .cons ⟨definition, last, tells⟩ .nil, ran⟩

theorem command_asked (filled : Full definitions catalog entries procedures)
    {types : EnumTypes} (serve : ∀ definition ∈ definitions,
      ∀ argument ∈ definition.arguments, argument.Serves types True)
    (precision : Precision) (commanded : Option String)
    (known : ∀ name ∈ commanded.toList, name ∈ sortedNames entries) :
    (∃ lines, List.Forall₂ (Presents (TellsCommand precision) definitions) commanded.toList lines ∧
      showCommand (.ok precision) (commanded.map .text) (base.shelve catalog) =
        .ok () (base.shelve (catalog.print lines))) ∨
    ∃ name definition fault, commanded = some name ∧
      Definition.last? name definitions = some definition ∧ Unwritten precision definition fault ∧
      showCommand (.ok precision) (commanded.map .text) (base.shelve catalog) =
        .error fault (base.shelve catalog) := by
  cases commanded with
  | none =>
      refine .inl ⟨[], .nil, ?_⟩
      rw [Catalog.print_nil]
      rfl
  | some name =>
      obtain ⟨definition, last⟩ := filled.last_of_mem (known name List.mem_cons_self)
      have serves := serve definition (Definition.last?_eq_some last).1
      rcases commandScript_shelve base filled last serves precision with
        ⟨line, tells, ran⟩ | ⟨fault, failed, ran⟩
      · exact .inl ⟨[line], .cons ⟨definition, last, tells⟩ .nil, ran⟩
      · exact .inr ⟨name, definition, fault, rfl, last, failed, ran⟩

theorem clear_shelve (filled : Full definitions catalog entries procedures) :
    ∃ after, onTable 0 Catalog.clear (base.shelve catalog) = .ok () (base.shelve after) ∧
      Quiet catalog.journal after.journal := by
  obtain ⟨after, _, _, ran, inStep⟩ := Catalog.clear_of_inStep filled.inStep
  have quiet := Catalog.quiet_clear catalog
  rw [Act.after_of_ok ran] at quiet
  exact ⟨after, base.onTable_shelve ran filled.inStep.installed inStep.installed, quiet⟩

theorem showAsked_cases {options : ToolOptions}
    (given : ∀ value ∈ asked options, IsAsked value)
    (filled : Full definitions catalog entries procedures)
    {types : EnumTypes} (serve : ∀ definition ∈ definitions,
      ∀ argument ∈ definition.arguments, argument.Serves types True)
    (precision : Precision) :
    ∃ lines, Shown options definitions precision (sortedNames entries)
        (Act.outcome (showAsked options (.ok precision) catalog.table) (base.shelve catalog))
        lines ∧
      (Act.after (showAsked options (.ok precision) catalog.table)
        (base.shelve catalog)).journal.lines = catalog.journal.lines ++ lines := by
  rcases missingName_cases filled given with ⟨found, texts⟩ | ⟨name, unknown, member, found⟩ |
    ⟨member, failed⟩
  · obtain ⟨described, describe, knownDescribed⟩ := text_of_option fun value member =>
      texts value (List.mem_append_left _ member)
    obtain ⟨commanded, command, knownCommanded⟩ := text_of_option fun value member =>
      texts value (List.mem_append_right _ member)
    obtain ⟨descriptions, describes, ranDescriptions⟩ :=
      describe_asked base filled described knownDescribed
    have known (name : String) (member : name ∈ described.toList ++ commanded.toList) :
        name ∈ sortedNames entries := by
      rcases List.mem_append.mp member with first | second
      · exact knownDescribed name first
      · exact knownCommanded name second
    have shown : showAsked options (.ok precision) catalog.table (base.shelve catalog) =
        (do
          showCommand (.ok precision) (commanded.map .text)
          onTable 0 Catalog.clear
          return 0 : Act Workspace Nat) (base.shelve (catalog.print descriptions)) := by
      rw [showAsked, found, Act.ofExcept_ok_bind, describe, command]
      exact Act.bind_of_ok _ ranDescriptions
    rcases command_asked base (filled.print descriptions) serve precision commanded
      knownCommanded with ⟨commands, tells, ranCommands⟩ | ⟨name, definition, fault, rfl, last,
        failed, broken⟩
    · -- The table is cleared at the end, which must not fail either.
      obtain ⟨after, cleared, quiet⟩ :=
        clear_shelve base ((filled.print descriptions).print commands)
      have ran := shown.trans ((Act.bind_of_ok _ ranCommands).trans (Act.bind_of_ok _ cleared))
      rw [Act.outcome, ran, Act.after_of_ok ran]
      refine ⟨_, .everything describe command known describes tells, ?_⟩
      rw [← Catalog.lines_print, ← Catalog.print_print]
      exact quiet.lines_eq
    · have ran := shown.trans (Act.bind_of_error _ broken)
      rw [Act.outcome, ran, Act.after_of_error ran]
      exact ⟨_, .unwritten describe command known describes last failed,
        Catalog.lines_print descriptions catalog⟩
  · have ran : showAsked options (.ok precision) catalog.table (base.shelve catalog) =
        .ok 1 (base.shelve { catalog with
          journal := catalog.journal ++
            [.complained (s!"No script named \"{name}\"" ++ "\n")] }) := by
      rw [showAsked, found]
      rfl
    rw [Act.outcome, ran, Act.after_of_ok ran]
    exact ⟨_, .missing member unknown, lines_append _ _⟩
  · have broken : showAsked options (.ok precision) catalog.table (base.shelve catalog) =
        .error (.unhashable .list) (base.shelve catalog) := by
      rw [showAsked, failed]
      rfl
    rw [Act.outcome, broken, Act.after_of_error broken]
    exact ⟨[], .unasked member, (List.append_nil _).symm⟩

/-- Titles of all names in order, if a listing is asked for, and then what is asked for. -/
theorem present_cases {options : ToolOptions} (given : ∀ value ∈ asked options, IsAsked value)
    (filled : Full definitions catalog entries procedures)
    {types : EnumTypes} (serve : ∀ definition ∈ definitions,
      ∀ argument ∈ definition.arguments, argument.Serves types True)
    {config : Config} (configServes : config.serves = true) :
    ∃ precision titles lines, placesOf options config = .ok precision ∧
      List.Forall₂ (Presents TellsTitle definitions)
        (if options.list then sortedNames entries else []) titles ∧
      Shown options definitions precision (sortedNames entries)
        (Act.outcome (present options config 0 0) (base.shelve catalog)) lines ∧
      (Act.after (present options config 0 0) (base.shelve catalog)).journal.lines =
        catalog.journal.lines ++ printed titles ++ lines := by
  obtain ⟨precision, set⟩ : ∃ precision, placesOf options config = .ok precision := by
    unfold placesOf
    cases options.precision with
    | none =>
        obtain ⟨precision, _, set, _⟩ := Config.getPrecision_of_serves configServes
        exact ⟨precision, set⟩
    | some precision => exact ⟨precision, rfl⟩
  obtain ⟨titles, tells, listed⟩ := forM_listScript base filled
    (if options.list then sortedNames entries else []) fun name member => by
      split at member
      · exact member
      · cases member
  obtain ⟨lines, shown, written⟩ :=
    showAsked_cases base given (filled.print titles) serve precision
  have run : present options config 0 0 (base.shelve catalog) =
      showAsked options (.ok precision) catalog.table (base.shelve (catalog.print titles)) := by
    rw [present_eq base options config filled, set]
    exact Act.bind_of_ok _ listed
  refine ⟨precision, titles, lines, set, tells, ?_, ?_⟩
  · rw [Act.outcome, run]
    exact shown
  · rw [Act.after, run, ← Catalog.lines_print]
    exact written

end Tool

end ScriptCatalog
