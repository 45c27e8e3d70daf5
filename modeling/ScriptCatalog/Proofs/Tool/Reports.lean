import Mathlib.Data.List.Perm.Basic
import ScriptCatalog.Proofs.Runner.Numbered
import ScriptCatalog.Proofs.Tool.Running

/-! What comes of calling the tool. Faults of script files are reported with two exceptions, and of
a script file that loads the last definition of each name is shown. -/

namespace ScriptCatalog

open Journal Workspace

namespace Tool

/-! Small files. -/

/-- Files with a script file `s` and with settings `c` that change no default. -/
def filesWith (text : String) : Files :=
  { Files.empty with entries := [(["work", "s"], text), (["work", "c"], "\x7b\x7d")] }

theorem leads_settings (text : String) : (filesWith text).Leads "c" ["work", "c"] :=
  Files.leads_of_isSingleName (by decide) rfl rfl

/-- Whether a text, with line feeds for line ends, is a document with the given entries. -/
def lists (entries : List Json) (text : String) : Bool :=
  !text.toList.contains '\r' && (Json.read text).toOption.any (Json.same (.array entries))

theorem read_of_lists {entries : List Json} {text : String} (listed : lists entries text = true) :
    (filesWith text).read "s" = .ok text ∧ Json.read text = .ok (.array entries) := by
  obtain ⟨feeds, found⟩ := Bool.and_eq_true_iff.mp listed
  rw [Bool.not_eq_true', List.contains_eq_mem, decide_eq_false_iff_not] at feeds
  have leads : (filesWith text).Leads "s" ["work", "s"] :=
    Files.leads_of_isSingleName (by decide) rfl rfl
  exact ⟨leads.read_text rfl feeds, Json.read_eq_ok_of_same found⟩

theorem readEntries_of_lists {entries : List Json} {text : String}
    (listed : lists entries text = true) :
    Registration.readEntries (filesWith text) "s" = .ok entries :=
  Registration.readEntries_of_read (read_of_lists listed).1 (read_of_lists listed).2

theorem opened_filesWith (text : String) :
    ∃ config, config.getPrecision = .ok (.places 6) ∧
      sharedConfig (.text "c") { empty with files := filesWith text } =
        .ok 0 (withSettings config (filesWith text) []) := by
  obtain ⟨shipped, made, opened⟩ :=
    sharedConfig_of_no_values (leads_settings text) (by decide) rfl
  refine ⟨_, ?_, opened⟩
  have configured : (Config.shipped >>= Config.getPrecision) = .ok (.places 6) := rfl
  rw [made] at configured
  exact configured

/-- What `--config=c --list s` asks for. -/
def listing : ToolOptions :=
  { ToolOptions.none with scriptFile := some "s", list := true, config := some (.text "c") }

theorem understood_listing :
    ToolOptions.ofWords ["--config=c", "--list", "s"] = .ok listing := rfl

theorem whole_settings_listing (text : String) (path : String)
    (kept : settingsPath listing (filesWith text) = .text path) :
    (filesWith text).IsWhole path := by
  cases kept
  intro held read
  cases ((leads_settings text).read_text rfl (by decide)).symm.trans read
  rw [Json.read_no_fields]
  nofun

/-- A script file with a number where a declaration is expected. -/
def undeclaring : String := "[\x7b\"name\":\"a\",\"args\":[5]\x7d]"

theorem lists_undeclaring :
    lists [.object [("name", .string "a"), ("args", .array [.int 5])]] undeclaring = true := by
  decide +kernel

/-- A script file with two entries of one name. -/
def redefining : String :=
  "[\x7b\"name\":\"a\"\x7d,\x7b\"name\":\"a\",\"menu_label\":\"B\"\x7d]"

theorem lists_redefining :
    lists [.object [("name", .string "a")],
      .object [("name", .string "a"), ("menu_label", .string "B")]] redefining = true := by
  decide +kernel

/-- A script file with one entry, which has no more than a name. -/
def naming (name : String) : String := "[\x7b\"name\":\"" ++ name ++ "\"\x7d]"

theorem loads_naming {name : String} (named : name ≠ "")
    (listed : lists [.object [("name", .string name)]] (naming name) = true) :
    (Registration.loadFile .standard (filesWith (naming name)) "s").outcome [] =
      .ok [Definition.script ⟨ScriptTexts.plain name, []⟩] :=
  (Registration.loadFile_eq_ok_iff _ []).mpr
    ⟨_, _, readEntries_of_lists listed, .cons (Registration.defines_plain named) .nil, rfl⟩

/-- A script file with one entry, which has a number for an argument. -/
def gauging : String :=
  "[\x7b\"name\":\"s\",\"args\":[[\"SF-ADJUSTMENT\",\"A\",[0.0,0.0,0.0,0.0,0.0,0]]]\x7d]"

def gaugeEntry : Json :=
  .object [("name", .string "s"),
    ("args", .array [.array [.string "SF-ADJUSTMENT", .string "A",
      .array [.real .zero, .real .zero, .real .zero, .real .zero, .real .zero, .int 0]]])]

def gaugeDefinition : Definition := ⟨ScriptTexts.plain "s", [Script.gauge .zero .zero]⟩

theorem readEntries_gauging :
    Registration.readEntries (filesWith gauging) "s" = .ok [gaugeEntry] :=
  readEntries_of_lists (by decide +kernel)

theorem defines_gauging : Registration.Defines .standard gaugeEntry gaugeDefinition := by
  have typed : ArgKind.ofDatum (.text "SF-ADJUSTMENT") = .ok .adjustment := by
    rw [show "SF-ADJUSTMENT" = ArgKind.adjustment.token by decide +kernel]
    exact ArgKind.ofDatum_token .adjustment
  have listed : (Datum.list [.real .zero, .real .zero, .real .zero, .real .zero, .real .zero,
      .int 0]).sequence? = some (List.replicate 5 (.real .zero) ++ [.int 0]) := rfl
  refine ⟨⟨_, rfl⟩, rfl, by decide, rfl, rfl, rfl, rfl, rfl, rfl, _, rfl, .cons ?_ .nil⟩
  refine .intro rfl typed (.adjustment listed ?_ .unsaid (by decide +kernel))
  exact .cons (.real _) (.cons (.real _) (.cons (.real _) (.cons (.real _) (.cons (.real _) .nil))))

section

variable [Platform] {options : ToolOptions} {words : List String} {files after : Files}
  {config : Config} {journal : Journal} {path : String}

/-! How a call ends. -/

/-- That a call ends with exit code 0 or 1. -/
def Report.Exits (report : Report) : Prop := report.outcome = .ok 0 ∨ report.outcome = .ok 1

/-- With a script file that loads, a call ends with an exit code unless `--` is given for a name. -/
theorem exits_of_loaded {scripts : List Script}
    (understood : ToolOptions.ofWords words = .ok options) (unset : options.precision = none)
    (opened : sharedConfig (settingsPath options files) { empty with files } =
      .ok 0 (withSettings config after journal))
    (named : options.scriptFile = some path)
    (loaded : (Registration.loadFile .standard after path).outcome [] = .ok scripts) :
    (call files words).Exits ∨
      .list [] ∈ asked options ∧ (call files words).outcome = .error (.unhashable .list) := by
  obtain ⟨entries, definitions, read, defined, _⟩ :=
    (Registration.loadFile_eq_ok_iff after []).mp loaded
  obtain ⟨_, precision, _, _, _, _, set, _, shown, _⟩ :=
    call_of_defined understood opened named read defined
  generalize outcome : (call files words).outcome = ended at shown
  cases shown with
  | everything => exact .inl (.inl outcome)
  | missing => exact .inl (.inr outcome)
  | unwritten _ _ _ _ _ failed =>
      -- The settings have decimal places that can be had.
      obtain ⟨_, places, configured, counted⟩ :=
        Config.getPrecision_of_serves (serves_of_opened opened).1
      rw [placesOf, unset] at set
      cases configured.symm.trans set
      exact absurd counted (failed.1 places)
  | unasked inAsked => exact .inr ⟨inAsked, rfl⟩

end

/-- Lines as they are written. -/
def written (lines : List String) : String := String.join (lines.map (· ++ "\n"))

section

variable [Platform] {options : ToolOptions}

theorem output_of_writes {lines : Journal} {report : Report} (writes : report.Writes options lines)
    (brief : options.verbose = false) :
    report.output = output false lines ∧ report.complaints = complaints lines := by
  obtain ⟨journal, rfl, output, complaints⟩ := writes
  rw [brief] at output
  exact ⟨output.trans (output_lines journal).symm, complaints.trans (complaints_lines journal).symm⟩

omit [Platform] in
theorem asked_of_texts {described commanded : Option String}
    (describe : options.describe = described.map .text)
    (command : options.command = commanded.map .text) :
    asked options = (described.toList ++ commanded.toList).map .text := by
  rw [asked, describe, command]
  cases described <;> cases commanded <;> rfl

/-- How a call ends that shows scripts after some lines: with 0 after the description and the
command that are asked for, or broken off after the description by a command that cannot be written,
or with 1 and a name that no script has. -/
inductive Report.Shows (definitions : List Definition) (precision : Precision)
    (names before : List String) (described commanded : Option String) (report : Report) : Prop
  | everything {descriptions commands : List String}
      (known : ∀ name ∈ described.toList ++ commanded.toList, name ∈ names)
      (describes : List.Forall₂ (Presents TellsProcedure definitions) described.toList descriptions)
      (instructs : List.Forall₂ (Presents (TellsCommand precision) definitions) commanded.toList
        commands)
      (outcome : report.outcome = .ok 0) (complaints : report.complaints = "")
      (output : report.output = written (before ++ descriptions ++ commands))
  | unwritten {descriptions : List String} {name : String} {definition : Definition} {fault : Fault}
      (known : ∀ name ∈ described.toList ++ commanded.toList, name ∈ names)
      (describes : List.Forall₂ (Presents TellsProcedure definitions) described.toList descriptions)
      (asked : commanded = some name)
      (last : Definition.last? name definitions = some definition)
      (unusable : ∀ places, precision.count ≠ .ok places)
      (failed : Script.command precision definition.script = .error fault definition.script)
      (outcome : report.outcome = .error fault) (complaints : report.complaints = "")
      (output : report.output = written (before ++ descriptions))
  | missing {name : String} (asked : name ∈ described.toList ++ commanded.toList)
      (unknown : name ∉ names) (outcome : report.outcome = .ok 1)
      (complaints : report.complaints = s!"No script named \"{name}\"" ++ "\n")
      (output : report.output = written before)

end

/-- What `--config=c --command=s s` asks for, perhaps with some decimal places. -/
def commanding (precision : Option Precision) : ToolOptions :=
  { ToolOptions.none with
    scriptFile := some "s", command := some (.text "s"), precision, config := some (.text "c") }

theorem read_commanding {word : String} {precision : Precision}
    (given : ToolOptions.givenPrecision word = .ok precision) :
    ToolOptions.read .none false true [.switch .config false (some "c"),
      .switch .command false (some "s"), .switch .precision false (some word), .plain "s"] =
        .ok (commanding (some precision)) := by
  change (do
    let options ← (do
      return { commanding none with
        scriptFile := none, precision := some (← ToolOptions.givenPrecision word) })
    ToolOptions.read options false true [.plain "s"] : Except ToolOptions.Refusal ToolOptions) = _
  rw [given]
  rfl

theorem understood_large :
    ToolOptions.ofWords ["--config=c", "--command=s", "--precision=2147483648", "s"] =
      .ok (commanding (some (.places 2147483648))) := by
  have large : readInt? "2147483648" = some 2147483648 := by decide +kernel
  have given : ToolOptions.givenPrecision "2147483648" = .ok (.places 2147483648) := by
    have few : countDigits "2147483648" ≤ Platform.digits := by decide +kernel
    have noDashes : ("2147483648" == "--") = false := by decide +kernel
    simp only [ToolOptions.givenPrecision, noDashes, large, few, Bool.false_eq_true, if_false,
      if_true]
  have words : Word.classifyAll? ["--config=c", "--command=s", "--precision=2147483648", "s"] =
      some [.switch .config false (some "c"), .switch .command false (some "s"),
        .switch .precision false (some "2147483648"), .plain "s"] := rfl
  rw [ToolOptions.ofWords, words]
  exact read_commanding given

/-- The command of the number is all that a call ends with. -/
theorem call_gauging {words : List String} {precision : Option Precision}
    (understood : ToolOptions.ofWords words = .ok (commanding precision)) :
    (∃ line, Script.command (precision.getD (.places 6)) gaugeDefinition.script =
        .ok line gaugeDefinition.script ∧
      (call (filesWith gauging) words).outcome = .ok 0 ∧
      (call (filesWith gauging) words).output = line ++ "\n") ∨
    ∃ fault, Script.command (precision.getD (.places 6)) gaugeDefinition.script =
        .error fault gaugeDefinition.script ∧
      (call (filesWith gauging) words).outcome = .error fault := by
  obtain ⟨config, configured, opened⟩ := opened_filesWith gauging
  obtain ⟨names, chosen, titles, lines, _, known, set, tells, shown, writes⟩ :=
    call_of_defined understood opened rfl readEntries_gauging (.cons defines_gauging .nil)
  have same : chosen = precision.getD (.places 6) := by
    rw [placesOf, configured] at set
    cases precision <;> cases set <;> rfl
  obtain ⟨output, _⟩ := output_of_writes writes rfl
  cases tells
  rw [← same]
  generalize outcome : (call (filesWith gauging) words).outcome = ended at shown ⊢
  cases shown with
  | @everything described commanded _ _ describe command _ describes instructs =>
      have nothing : described = none := by cases described <;> cases describe; rfl
      have single : commanded = some "s" := by cases commanded <;> cases command; rfl
      subst nothing single
      cases describes
      obtain _ | ⟨⟨_, last, line⟩, ⟨⟩⟩ := instructs
      cases last
      refine .inl ⟨_, line, rfl, ?_⟩
      rw [output]
      rfl
  | unwritten _ command _ _ last failed =>
      cases command
      cases last
      exact .inr ⟨_, failed.2, rfl⟩
  | missing asked unknown =>
      cases List.mem_singleton.mp asked
      exact absurd ((known "s").mpr ⟨gaugeDefinition, by simp, rfl⟩) unknown
  | unasked asked => cases List.mem_singleton.mp asked

theorem output_gauging {words : List String} {precision : Option Precision} {places : Nat}
    (understood : ToolOptions.ofWords words = .ok (commanding precision))
    (chosen : precision.getD (.places 6) = .places places)
    (counted : (Precision.places places).count = .ok places) :
    (call (filesWith gauging) words).output =
      commandText "s" [String.ofList (Binary64.zero.fixed places)] ++ "\n" := by
  have given := Script.command_gauged places counted .zero .zero
  change Script.command (.places places) gaugeDefinition.script = _ at given
  rw [← chosen] at given
  rcases call_gauging understood with ⟨line, shown, _, output⟩ | ⟨_, failed, _⟩
  · rw [output, (EStateM.Result.ok.inj (shown.symm.trans given)).1]
  · cases given.symm.trans failed

end Tool

end ScriptCatalog
