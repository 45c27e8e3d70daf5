import ScriptCatalog.Proofs.Config.Defaults
import ScriptCatalog.Proofs.Config.Saved
import ScriptCatalog.Proofs.Workspace.Mirrored

/-! Settings that are closed and opened again. Where they were saved in a file that keeps what is
written, each saved value is found as it was, each other one has its default, and opening them
writes nothing and notes nothing. Values that are saved nowhere or over their own definitions are
lost, and not all values can be saved. -/

namespace ScriptCatalog

section

variable [Platform]

/-! Definitions. -/

namespace Config

variable {files : Files} {definitions : Json} {defined : List ConfigEntry} {path text : String}
  {place : Place}

theorem exists_read_of_readDefinitions
    (read : readDefinitions files (.text path) = .ok definitions) :
    ∃ text, Json.read text = .ok definitions := by
  unfold readDefinitions at read
  dsimp only at read
  split at read
  · obtain ⟨text, _, read⟩ := (Except.bind_eq_ok _ _ _).mp read
    split at read
    next held document =>
      cases read
      exact ⟨text, document⟩
    next => cases read
    next => cases read
  · cases read

theorem readDefinitions_of_read (keeps : files.contains path = true)
    (read : files.read path = .ok text) (document : Json.read text = .ok definitions) :
    readDefinitions files (.text path) = .ok definitions := by
  unfold readDefinitions
  dsimp only
  rw [if_pos keeps]
  refine (Except.bind_eq_ok _ _ _).mpr ⟨text, read, ?_⟩
  rw [document]
  rfl

/-- Definitions that are accepted have different keys, and make settings whose defaults fit and can
be saved. -/
theorem accepted_of_readDefinitions
    (read : readDefinitions files (.text path) = .ok definitions)
    (accepted : ofDefinitions definitions = .ok ⟨defined, [], none⟩) :
    (defined.map (·.key)).Nodup ∧ (∀ definition ∈ defined, definition.IsDefined) ∧
      ∀ definition ∈ defined, Json.canWrite definition.value = true := by
  obtain ⟨text, document⟩ := exists_read_of_readDefinitions read
  obtain ⟨_, _, accepted⟩ := (Except.bind_eq_ok _ _ _).mp accepted
  cases definitions with
  | object fields =>
      obtain ⟨entries, made, same⟩ := (Except.bind_eq_ok _ _ _).mp accepted
      cases same
      obtain ⟨keys, each⟩ := definedEntries_eq_ok made
      rw [keys]
      exact ⟨Json.nodup_of_read document, each,
        canWrite_of_definedEntries (Json.hasFewDigits_of_read document) made⟩
  | _ =>
      cases accepted
      exact ⟨List.nodup_nil, List.forall_mem_nil _, List.forall_mem_nil _⟩

/-- Plain values define nothing. -/
theorem ofDefinitions_ofFields {values : List (String × Scalar)} (held : values ≠ []) :
    ∃ fault, ofDefinitions (.object (Json.ofFields values)) = .error fault := by
  obtain ⟨⟨key, value⟩, others, rfl⟩ := List.exists_cons_of_ne_nil held
  cases value with
  | bool value => exact ⟨_, rfl⟩
  | int value => exact ⟨_, rfl⟩
  | real value => exact ⟨_, rfl⟩
  | text value => exact ⟨_, rfl⟩

end Config

/-! Opening settings. -/

namespace Workspace

variable {before : Files} {definitionsPath path : String} {definitions : Json}
  {defined : List ConfigEntry} {desk after : ConfigDesk}

theorem openConfig_of_start (space : Workspace)
    (read : Config.readDefinitions space.files (.text definitionsPath) = .ok definitions)
    (accepted : Config.ofDefinitions definitions = .ok ⟨defined, [], none⟩)
    (started : ConfigDesk.start ⟨⟨defined, [], some path⟩, space.files, space.journal⟩ =
      .ok () after) :
    openConfig (.text definitionsPath) (.text path) space =
      .ok space.configs.length { space with
        configs := space.configs ++ [after.config]
        files := after.files
        journal := after.journal } := by
  rw [openConfig, Act.get_bind, read, Act.ofExcept_ok_bind, accepted, Act.ofExcept_ok_bind]
  change startConfig ⟨defined, [], some path⟩ space = _
  unfold startConfig
  rw [started]

/-- Settings can be saved exactly where their file can be written, with values that can be written
out. Those that were saved in a file that keeps what is written are opened again as they were saved,
as long as their definitions are there. -/
theorem openConfig_of_saved
    (read : Config.readDefinitions before (.text definitionsPath) = .ok definitions)
    (accepted : Config.ofDefinitions definitions = .ok ⟨defined, [], none⟩)
    (reached : ConfigDesk.Reached defined (some path) desk) :
    (desk.Savable ↔ ∃ files, ConfigDesk.save desk = .ok () { desk with files }) ∧
    ∀ files, ConfigDesk.save desk = .ok () { desk with files } → files.contains path = true →
      Config.readDefinitions files (.text definitionsPath) = .ok definitions →
      ∀ space : Workspace, space.files = files → ∃ again : Config,
        openConfig (.text definitionsPath) (.text path) space =
          .ok space.configs.length { space with configs := space.configs ++ [again] } ∧
        again.keys = desk.config.keys ∧
        ∀ key entry, desk.config.entry key = .ok entry → again.get key =
          if entry.saved then desk.config.get key else .ok entry.parameter.default := by
  obtain ⟨distinct, made, _⟩ := Config.accepted_of_readDefinitions read accepted
  have settled := reached.settled distinct made
  refine ⟨ConfigDesk.savable_iff, ?_⟩
  rintro files saved keeps kept space rfl
  have started := ConfigDesk.start_of_saved settled made distinct saved keeps space.journal
  refine ⟨desk.config.reopened, openConfig_of_start space kept accepted started,
    Config.keys_reopened _, fun key entry found => ?_⟩
  rw [Config.get_reopened found, Config.get_of_entry found]
  split
  · rfl
  · rfl

/-! Values that are lost. -/

/-- Nothing is found of settings that were saved where nothing is kept. -/
theorem start_of_null {files : Files} {journal : Journal}
    (takes : files.Takes path Files.nullPlace) (can : Config.CanSave ⟨defined, [], some path⟩) :
    ConfigDesk.start ⟨⟨defined, [], some path⟩, files, journal⟩ =
      .ok () ⟨⟨defined, [], some path⟩, files, journal⟩ := by
  have none : ¬files.contains path = true := fun keeps => (takes.contains_iff.mp keeps).1 rfl
  have saved := ConfigDesk.save_of_takes
    ⟨⟨defined, [], some path⟩, files, journal⟩ rfl takes can
  rw [Files.put, if_pos rfl] at saved
  rw [ConfigDesk.start, Act.get_bind]
  dsimp only
  rw [if_neg none]
  exact saved

/-- Settings that were saved over their own definitions are not opened again. -/
theorem openConfig_of_overwritten (settled : ConfigDesk.Settled defined (some path) desk)
    (distinct : (defined.map (·.key)).Nodup) {files : Files}
    (saved : ConfigDesk.save desk = .ok () { desk with files })
    (keeps : files.contains path = true) (held : desk.config.savedValues ≠ [])
    (space : Workspace) (same : space.files = files) :
    ∃ fault, openConfig (.text path) (.text path) space = .error fault space := by
  have keys : desk.config.keys.Nodup := settled.follows.keys ▸ distinct
  obtain ⟨can, written⟩ := (ConfigDesk.save_eq_ok saved).2.1 path settled.savedPath
  have text := Files.read_of_write written keeps (Json.return_not_mem_write _)
  have values := Json.read_write (Config.nodup_savedValues keys) can
  have read := Config.readDefinitions_of_read keeps text values
  obtain ⟨fault, refused⟩ := Config.ofDefinitions_ofFields held
  refine ⟨fault, ?_⟩
  rw [openConfig, Act.get_bind, same, read, Act.ofExcept_ok_bind, refused]
  rfl

end Workspace

end

namespace Workspace

/-! Settings of two kinds: a number that is saved and a whole number that is not. -/

def definedText : String :=
  "\x7b\"x\":\x7b\"type\":\"float\",\"label\":\"X\",\"category\":\"\",\"description\":\"\"," ++
    "\"saved\":true\x7d,\"n\":\x7b\"type\":\"int\",\"label\":\"N\",\"category\":\"\"," ++
    "\"description\":\"\"\x7d\x7d"

def definedJson : Json :=
  .object [
    ("x", .object [("type", .string "float"), ("label", .string "X"), ("category", .string ""),
      ("description", .string ""), ("saved", .bool true)]),
    ("n", .object [("type", .string "int"), ("label", .string "N"), ("category", .string ""),
      ("description", .string "")])]

/-- The settings that are defined so, with their values. -/
def measured (x : Binary64) (n : Int) : List ConfigEntry :=
  [⟨"x", ⟨.text "X", .real .zero, .text "", none, none⟩, .text "", true, .real x⟩,
    ⟨"n", ⟨.text "N", .int 0, .text "", none, none⟩, .text "", false, .int n⟩]

/-- Files in the folder where nothing is kept under `null`: definitions `d`, saved values `s`. -/
def devices : Files :=
  { Files.make ["dev"] ["data"] with
    entries := [(["dev", "d"], definedText), (["dev", "s"], "\x7b\x7d")] }

theorem read_definedText : Json.read definedText = .ok definedJson :=
  Json.read_eq_ok_of_same (by decide +kernel)

theorem return_not_mem_definedText : '\r' ∉ definedText.toList := by decide +kernel

theorem ofDefinitions_definedJson :
    Config.ofDefinitions definedJson = .ok ⟨measured .zero 0, [], none⟩ := rfl

theorem takes_d : devices.Takes "d" ["dev", "d"] :=
  ⟨Files.leads_of_isSingleName (by decide) rfl rfl, rfl⟩

theorem takes_s : devices.Takes "s" ["dev", "s"] :=
  ⟨Files.leads_of_isSingleName (by decide) rfl rfl, rfl⟩

theorem takes_null : devices.Takes "null" Files.nullPlace :=
  ⟨Files.leads_of_isSingleName (by decide) rfl rfl, rfl⟩

theorem readDefinitions_devices {files : Files} (leads : files.Leads "d" ["dev", "d"])
    (there : files.textAt? ["dev", "d"] = some definedText) :
    Config.readDefinitions files (.text "d") = .ok definedJson := by
  have keeps : files.contains "d" = true := by
    refine leads.contains_iff.mpr ⟨by decide, ?_⟩
    rw [there]
    rfl
  have read := leads.read_eq there
  rw [Files.unifyLines_of_not_mem return_not_mem_definedText, String.ofList_toList] at read
  exact Config.readDefinitions_of_read keeps read read_definedText

/-- Such settings in use, kept at a path. -/
def measuring (path : String) (x : Binary64) (n : Int) : ConfigDesk :=
  ⟨⟨measured x n, [], some path⟩, devices, []⟩

/-- Both settings are changed, and neither change is saved. -/
theorem reached_measuring {path : String}
    (started : ConfigDesk.start (measuring path .zero 0) = .ok () (measuring path .zero 0)) :
    ConfigDesk.Reached (measured .zero 0) (some path) (measuring path .nan 5) :=
  .changed "n" (.int 5) false (.changed "x" (.real .nan) false (.started _ _ started))

theorem start_measuring :
    ConfigDesk.start (measuring "s" .zero 0) = .ok () (measuring "s" .zero 0) :=
  ConfigDesk.start_of_no_values rfl takes_s.toLeads (by decide) rfl

theorem canSave_measured (x : Binary64) (n : Int) (connections : List Connection)
    (path : Option String) : Config.CanSave ⟨measured x n, connections, path⟩ := by
  rintro _ (_ | ⟨_, ⟨⟩⟩)
  rfl

theorem openConfig_of_saved_measuring :
    ConfigDesk.Reached (measured .zero 0) (some "s") (measuring "s" .nan 5) ∧
      ∃ files again,
        ConfigDesk.save (measuring "s" .nan 5) = .ok () { measuring "s" .nan 5 with files } ∧
        openConfig (.text "d") (.text "s") { empty with files } =
          .ok 0 { empty with files, configs := [again] } ∧
        again.get "x" = .ok (.real .nan) ∧ again.get "n" = .ok (.int 0) := by
  have reached := reached_measuring start_measuring
  have saved := ConfigDesk.save_of_takes (measuring "s" .nan 5) rfl takes_s
    (canSave_measured .nan 5 [] _)
  obtain ⟨_, opens⟩ := openConfig_of_saved
    (readDefinitions_devices takes_d.toLeads rfl) ofDefinitions_definedJson reached
  obtain ⟨again, opened, _, gets⟩ := opens _ saved (takes_s.contains_put (by decide))
    (readDefinitions_devices takes_d.toLeads.put rfl) { empty with files := _ } rfl
  exact ⟨reached, _, again, saved, opened, gets "x" _ rfl, gets "n" _ rfl⟩

/-- Definitions are no values, so that each is passed over where they are taken for saved values. -/
theorem exists_start_overwriting : ∃ journal, ConfigDesk.start (measuring "d" .zero 0) =
    .ok () { measuring "d" .zero 0 with journal } := by
  have keeps : devices.contains "d" = true := takes_d.contains_iff.mpr ⟨by decide, rfl⟩
  have read : devices.read "d" = .ok definedText := by
    rw [takes_d.read_eq rfl, Files.unifyLines_of_not_mem return_not_mem_definedText,
      String.ofList_toList]
  rw [measuring, ConfigDesk.start, Act.get_bind]
  dsimp only
  rw [if_pos keeps, ConfigDesk.load, Act.get_bind, read, Act.ofExcept_ok_bind, read_definedText]
  exact ⟨_, rfl⟩

/-- A whole number that is saved, and its definition. -/
def countedJson : Json :=
  .object [("k", .object [("type", .string "int"), ("label", .string "K"), ("category", .string ""),
    ("description", .string ""), ("saved", .bool true)])]

def counted (k : Int) : List ConfigEntry :=
  [⟨"k", ⟨.text "K", .int 0, .text "", none, none⟩, .text "", true, .int k⟩]

def counting (k : Int) : ConfigDesk := ⟨⟨counted k, [], some "s"⟩, devices, []⟩

theorem start_counting : ConfigDesk.start (counting 0) = .ok () (counting 0) :=
  ConfigDesk.start_of_no_values rfl takes_s.toLeads (by decide) rfl

theorem reached_counting (k : Int) :
    ConfigDesk.Reached (counted 0) (some "s") (counting k) := by
  have given : ((counted 0).head (List.cons_ne_nil _ _)).set (.int k) =
      .ok ((counted k).head (List.cons_ne_nil _ _), !(Scalar.int 0).same (.int k)) := rfl
  have quiet : (if !(Scalar.int 0).same (.int k) && false then ConfigDesk.save else pure ())
      (counting k) = .ok () (counting k) := by
    rw [Bool.and_false]
    rfl
  have ran : ConfigDesk.change "k" (.int k) false (counting 0) = .ok _ (counting k) :=
    ConfigDesk.change_of_set rfl given quiet
  have turned : ConfigDesk.Reached (counted 0) (some "s")
      (Act.after (ConfigDesk.change "k" (.int k) false) (counting 0)) :=
    .changed "k" (.int k) false (.started devices [] start_counting)
  rw [Act.after_of_ok ran] at turned
  exact turned

/-- A number that is too long to be written out keeps settings from being saved, and leaves a file
that ends before it. -/
theorem save_counting : ∃ files,
    ConfigDesk.save (counting (10 ^ 5000)) =
      .error (.tooManyDigits 4300) { counting (10 ^ 5000) with files } ∧
    files.read "s" = .ok (Json.writeStart [("k", .int (10 ^ 5000))]) := by
  have long : isShort (10 ^ 5000) = false := by decide +kernel
  have cannot : ¬(counting (10 ^ 5000)).config.CanSave := by
    intro can
    have short := can ("k", .int (10 ^ 5000)) (List.mem_singleton_self _)
    rw [Json.canWrite, long] at short
    cases short
  have written : devices.write "s" (Json.writeStart [("k", .int (10 ^ 5000))]) = .ok _ :=
    Files.write_eq_ok_iff.mpr ⟨_, takes_s, rfl⟩
  refine ⟨_, ConfigDesk.save_of_cannot rfl takes_s cannot, ?_⟩
  exact Files.read_of_write written (takes_s.contains_put (by decide)) (by decide +kernel)

/-- Values that are saved where nothing is kept are not found again, and values that are saved over
their own definitions keep the settings from being opened. A number that is too long is not saved,
and neither is anything where the file cannot be written. -/
theorem saved_values_lost :
    Config.readDefinitions devices (.text "d") = .ok definedJson ∧
      Config.ofDefinitions definedJson = .ok ⟨measured .zero 0, [], none⟩ ∧
      (∃ again, ConfigDesk.Reached (measured .zero 0) (some "null") (measuring "null" .nan 5) ∧
        (measuring "null" .nan 5).config.savedValues = [("x", .real .nan)] ∧
        ConfigDesk.save (measuring "null" .nan 5) = .ok () (measuring "null" .nan 5) ∧
        openConfig (.text "d") (.text "null") { empty with files := devices } =
          .ok 0 { empty with files := devices, configs := [again] } ∧
        again.get "x" = .ok (.real .zero)) ∧
      (∃ desk files fault space, ConfigDesk.Reached (measured .zero 0) (some "d") desk ∧
        ConfigDesk.save desk = .ok () { desk with files } ∧
        openConfig (.text "d") (.text "d") { empty with files } = .error fault space) ∧
      (Config.ofDefinitions countedJson = .ok ⟨counted 0, [], none⟩ ∧
        ConfigDesk.Reached (counted 0) (some "s") (counting (10 ^ 5000)) ∧
        ∃ files, ConfigDesk.save (counting (10 ^ 5000)) =
          .error (.tooManyDigits 4300) { counting (10 ^ 5000) with files } ∧
        files.read "s" = .ok (Json.writeStart [("k", .int (10 ^ 5000))])) ∧
      ∃ desk, ConfigDesk.Reached Config.shippedEntries (some "s") desk ∧
        ConfigDesk.save desk = .error (.notAllowed "s") desk := by
  have read := readDefinitions_devices takes_d.toLeads rfl
  have accepted := ofDefinitions_definedJson
  obtain ⟨distinct, made, _⟩ := Config.accepted_of_readDefinitions read accepted
  refine ⟨read, accepted, ?_, ?_, ?_, ?_⟩
  · have started : ConfigDesk.start (measuring "null" .zero 0) =
        .ok () (measuring "null" .zero 0) :=
      start_of_null takes_null (canSave_measured .zero 0 [] _)
    have reached := reached_measuring started
    have opened := openConfig_of_start { empty with files := devices } read accepted started
    have saved := ConfigDesk.save_of_takes (measuring "null" .nan 5) rfl takes_null
      (canSave_measured .nan 5 [] _)
    exact ⟨_, reached, rfl, saved, opened, rfl⟩
  · obtain ⟨journal, started⟩ := exists_start_overwriting
    have reached := ConfigDesk.Reached.started devices [] started
    have settled := reached.settled distinct made
    have saved := ConfigDesk.save_of_takes { measuring "d" .zero 0 with journal } rfl
      takes_d (canSave_measured .zero 0 [] _)
    obtain ⟨fault, refused⟩ := openConfig_of_overwritten settled distinct saved
      (takes_d.contains_put (by decide)) (List.cons_ne_nil _ _) { empty with files := _ } rfl
    exact ⟨_, _, fault, _, reached, saved, refused⟩
  · exact ⟨rfl, reached_counting _, save_counting⟩
  · have refused (text : String) : sealed.files.write "s" text = .error (.notAllowed "s") :=
      leads_sealed.write_of_locked rfl
    refine ⟨⟨⟨Config.shippedEntries, [], some "s"⟩, sealed.files, []⟩,
      .started sealed.files [] ?_, ?_⟩
    · exact ConfigDesk.start_of_no_values rfl leads_sealed (by decide) rfl
    · exact ConfigDesk.save_of_refused rfl refused

end Workspace

end ScriptCatalog
