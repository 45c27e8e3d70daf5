import ScriptCatalog.Proofs.Config.Files
import ScriptCatalog.Proofs.Json.Digits
import ScriptCatalog.Proofs.Tool.Lines

/-! Opening the settings. Whatever a settings file says, there are settings afterwards from which a
number of decimal places can be had, unless the file cannot be reached, goes beyond the reader, or
has something for a value that is nested too deeply to be shown. -/

namespace ScriptCatalog

variable [Platform]

namespace Fault

/-- That a file cannot be read or written. -/
def IsFileTrouble (fault : Fault) : Prop := fault.kind.isFileTrouble = true ∨ fault = .nullInPath

/-- That settings cannot be opened: their file is out of reach, or nested too deeply to be read, or
has too long an integer in it or something that is nested too deeply to be shown, or it is at no
path. -/
def IsSettingsTrouble (fault : Fault) : Prop :=
  fault.IsFileTrouble ∨ (∃ limit, fault = .beyondReader limit ∧ limit ≠ .halfPair) ∨
    fault = .shownTooDeep ∨ ∃ type, fault = .notPath type

end Fault

/-! Files. -/

namespace Files

variable (files : Files) (path text : String)

theorem expectPath_fails : FailsOnly Fault.IsFileTrouble (expectPath path) := by
  unfold expectPath
  refine failsOnly_unless (.inr rfl) ?_
  refine failsOnly_unless (.inl rfl) ?_
  split
  · exact failsOnly_error (.inl rfl)
  · exact failsOnly_ok _

theorem enter_fails (place : Place) (name : String) :
    FailsOnly Fault.IsFileTrouble (files.enter path place name) := by
  unfold enter
  dsimp only
  split
  · exact failsOnly_error (.inl rfl)
  · split
    · exact failsOnly_ok _
    · split
      · exact failsOnly_error (.inl rfl)
      · exact failsOnly_error (.inl rfl)

theorem foldlM_enter_fails (names : List String) (place : Place) :
    FailsOnly Fault.IsFileTrouble (names.foldlM (files.enter path) place) := by
  induction names generalizing place with
  | nil => exact failsOnly_ok _
  | cons name names ih =>
      rw [List.foldlM_cons]
      exact (files.enter_fails path place name).bind fun inside _ => ih inside

theorem target_fails : FailsOnly Fault.IsFileTrouble (files.target path) := by
  refine (expectPath_fails path).bind fun _ _ => ?_
  dsimp only
  split
  · exact failsOnly_ok _
  · refine (files.foldlM_enter_fails path _ _).bind fun place _ => ?_
    split
    · exact failsOnly_ok _
    · exact failsOnly_ok _

theorem expectName_fails (place : Place) :
    FailsOnly Fault.IsFileTrouble (expectName path place) := by
  unfold expectName
  split
  · exact failsOnly_error (.inl rfl)
  · exact failsOnly_ok _

theorem read_fails : FailsOnly Fault.IsFileTrouble (files.read path) := by
  refine (files.target_fails path).bind fun target _ => ?_
  cases target with
  | folder => exact failsOnly_error (.inl rfl)
  | name place slashed =>
      refine (expectName_fails path place).bind fun _ _ => failsOnly_unless (.inl rfl) ?_
      cases files.textAt? place with
      | none => exact failsOnly_error (.inl rfl)
      | some text => exact failsOnly_unless (.inl rfl) (failsOnly_ok _)

theorem write_fails : FailsOnly Fault.IsFileTrouble (files.write path text) := by
  refine (files.target_fails path).bind fun target _ => ?_
  cases target with
  | folder => exact failsOnly_error (.inl rfl)
  | name place slashed =>
      refine failsOnly_unless (.inl rfl) ?_
      refine (expectName_fails path place).bind fun _ _ => failsOnly_unless (.inl rfl) ?_
      exact failsOnly_unless (.inl rfl) (failsOnly_ok _)

/-- That no text in the document at a path has half of a surrogate pair on its own. -/
def IsWhole : Prop :=
  ∀ text, files.read path = .ok text → Json.read text ≠ .error (.beyond .halfPair)

end Files

/-! Settings that serve the tool. -/

/-- Whether a value has the kind of a parameter and lies within its range. -/
def Parameter.fits (parameter : Parameter) (value : Scalar) : Bool :=
  value.kind == parameter.kind && !parameter.outside value

theorem Parameter.fits_of_validate {parameter : Parameter} {value : Datum} {scalar : Scalar}
    (plain : value.scalar? = some scalar) (valid : parameter.validate value false = .ok true) :
    parameter.fits scalar = true := by
  simp only [validate, plain] at valid
  split at valid
  next => cases valid
  next same =>
    split at valid
    next => cases valid
    next inside =>
      simp only [not_not] at same
      simp [fits, same, inside]

namespace ConfigEntry

/-- Whether a setting is a whole number from 1 to no more than some number. -/
def isWithin (most : Int) (entry : ConfigEntry) : Bool :=
  decide (entry.parameter.kind = .int) && decide (entry.parameter.minimum = some (.int 1)) &&
    entry.parameter.maximum.any fun limit => limit.less (.int (most + 1))

theorem within_of_fits {most : Int} {entry : ConfigEntry} {value : Scalar}
    (within : entry.isWithin most = true) (fits : entry.parameter.fits value = true) :
    ∃ count : Int, 1 ≤ count ∧ count ≤ most ∧ value = .int count := by
  rw [isWithin, Bool.and_eq_true, Bool.and_eq_true, decide_eq_true_eq, decide_eq_true_eq,
    Option.any_eq_true] at within
  obtain ⟨⟨kind, minimum⟩, limit, maximum, few⟩ := within
  rw [Parameter.fits, Parameter.outside, kind, minimum, maximum] at fits
  cases value with
  | int count =>
      cases limit with
      | int limit =>
          simp only [Scalar.kind, Scalar.less, Option.any_some, Bool.and_eq_true, Bool.not_eq_true',
            Bool.or_eq_false_iff, decide_eq_false_iff_not, decide_eq_true_eq] at few fits
          exact ⟨count, by omega, by omega, rfl⟩
      | _ => cases few
  | bool value => cases fits
  | real value => cases fits
  | text value => cases fits

/-- Whether a setting is no real number, has a value that fits, and is within 1 and 17 if it is the
number of decimal places, and within 1 and 1000 if it is another whole number. -/
def serves (entry : ConfigEntry) : Bool :=
  decide (entry.parameter.kind ≠ .real) && entry.parameter.fits entry.value &&
    decide (entry.key = Config.precisionKey → entry.isWithin 17 = true) &&
      decide (entry.parameter.kind = .int → entry.isWithin 1000 = true)

theorem serves_iff (entry : ConfigEntry) :
    entry.serves = true ↔ entry.parameter.kind ≠ .real ∧
      entry.parameter.fits entry.value = true ∧
      (entry.key = Config.precisionKey → entry.isWithin 17 = true) ∧
      (entry.parameter.kind = .int → entry.isWithin 1000 = true) := by
  rw [serves, Bool.and_eq_true, Bool.and_eq_true, Bool.and_eq_true, decide_eq_true_eq,
    decide_eq_true_eq, decide_eq_true_eq, and_assoc, and_assoc]

/-- A whole number with few digits can be written out, and so can whatever is none. -/
theorem canWrite_of_fits {entry : ConfigEntry} {value : Scalar}
    (within : entry.parameter.kind = .int → entry.isWithin 1000 = true)
    (fits : entry.parameter.fits value = true) : Json.canWrite value = true := by
  cases value with
  | int count =>
      have kind : entry.parameter.kind = .int := by
        rw [Parameter.fits, Bool.and_eq_true, beq_iff_eq] at fits
        exact fits.1.symm
      obtain ⟨_, least, most, ⟨⟩⟩ := within_of_fits (within kind) fits
      refine isShort_of_natAbs_lt ?_
      have small : count.natAbs ≤ 1000 := by omega
      exact Nat.lt_of_le_of_lt small (by decide)
  | _ => rfl

/-- Whether a value is valid is found out, unless it is no plain one and cannot be shown. -/
theorem validate_false_cases (parameter : Parameter) (value : Datum) :
    (∃ valid, parameter.validate value false = .ok valid) ∨
      ∃ obstacle, value.scalar? = none ∧ value.unshown? = some obstacle ∧
        parameter.validate value false = .error obstacle.fault := by
  unfold Parameter.validate
  cases value.scalar? with
  | none =>
      cases value.unshown? with
      | none => exact .inl ⟨false, rfl⟩
      | some obstacle => exact .inr ⟨obstacle, rfl, rfl, rfl⟩
  | some scalar =>
      refine .inl ?_
      dsimp only
      split
      · exact ⟨false, rfl⟩
      · split
        · exact ⟨false, rfl⟩
        · exact ⟨true, rfl⟩

theorem savedValue_of_serves {entry : ConfigEntry} (serves : entry.serves = true) (saved : Json) :
    entry.savedValue saved = .ok (.ofJson saved) := by
  obtain ⟨notReal, _⟩ := (serves_iff entry).mp serves
  cases kind : entry.parameter.kind with
  | real => exact absurd kind notReal
  | _ =>
      unfold savedValue
      rw [kind]

/-- A saved value is taken over or passed over, and the setting serves as before; or it is nested
too deeply to be shown. -/
theorem load_of_serves {entry : ConfigEntry} (serves : entry.serves = true) {saved : Json}
    (short : saved.hasFewDigits = true) :
    entry.load saved = .error .shownTooDeep ∨
      ∃ changed rejected, entry.load saved = .ok (changed, rejected) ∧ changed.key = entry.key ∧
        changed.serves = true := by
  obtain ⟨notReal, _, others⟩ := (serves_iff entry).mp serves
  unfold load
  rw [savedValue_of_serves serves saved]
  change (entry.parameter.validate (.ofJson saved) false >>= _) = _ ∨
    ∃ changed rejected, (entry.parameter.validate (.ofJson saved) false >>= _) = _ ∧ _
  rcases validate_false_cases entry.parameter (.ofJson saved) with
    ⟨valid, checked⟩ | ⟨obstacle, _, unshown, failed⟩
  · rw [checked]
    refine .inr ?_
    cases valid with
    | false => exact ⟨entry, some (.ofJson saved), rfl, rfl, serves⟩
    | true =>
        cases plain : (Datum.ofJson saved).scalar? with
        | none =>
            simp only [Parameter.validate, plain] at checked
            split at checked <;> cases checked
        | some scalar =>
            have given : Parameter.expectScalar (.ofJson saved) = .ok scalar := by
              simp only [Parameter.expectScalar, plain]
            change ∃ changed rejected, (Parameter.expectScalar (.ofJson saved) >>= _) = _ ∧ _
            rw [given]
            refine ⟨{ entry with value := scalar }, none, rfl, rfl, ?_⟩
            exact (serves_iff _).mpr ⟨notReal, Parameter.fits_of_validate plain checked, others⟩
  · rw [failed]
    have isRead : (Datum.ofJson saved).IsRead := ⟨saved, short, rfl⟩
    cases isRead.unshown? unshown
    exact .inl rfl

end ConfigEntry

namespace Config

def serves (config : Config) : Bool :=
  config.entries.all ConfigEntry.serves && config.keys.contains precisionKey

theorem serves_iff (config : Config) :
    config.serves = true ↔
      (∀ entry ∈ config.entries, entry.serves = true) ∧ precisionKey ∈ config.keys := by
  simp [serves]

theorem exists_shipped : ∃ config, shipped = .ok config ∧ config.serves = true := ⟨_, rfl, rfl⟩

theorem serves_putEntry {config : Config} {entry : ConfigEntry} (serves : config.serves = true)
    (entryServes : entry.serves = true) : (config.putEntry entry).serves = true := by
  obtain ⟨each, known⟩ := (serves_iff config).mp serves
  refine (serves_iff _).mpr ⟨fun other member => ?_, ?_⟩
  · obtain ⟨earlier, there, rfl⟩ := List.mem_map.mp member
    split
    · exact entryServes
    · exact each earlier there
  · obtain ⟨held, there, named⟩ := List.mem_map.mp known
    refine List.mem_map.mpr ⟨_, List.mem_map_of_mem there, ?_⟩
    split
    next same => exact (eq_of_beq same).symm.trans named
    next => exact named

/-- The decimal places that can be had from settings are usable ones. -/
theorem getPrecision_of_serves {config : Config} (serves : config.serves = true) :
    ∃ precision places, config.getPrecision = .ok precision ∧ precision.count = .ok places := by
  obtain ⟨each, known⟩ := (serves_iff config).mp serves
  obtain ⟨member, inEntries, named⟩ := List.mem_map.mp known
  cases found : config.entry? precisionKey with
  | none =>
      have absent := List.find?_eq_none.mp found member inEntries
      rw [named] at absent
      exact absurd (beq_self_eq_true _) absent
  | some entry =>
      have there := List.mem_of_find?_eq_some found
      have key : entry.key = precisionKey := by
        have same := List.find?_some found
        exact eq_of_beq same
      obtain ⟨_, fits, places, _⟩ := (ConfigEntry.serves_iff entry).mp (each entry there)
      obtain ⟨count, first, last, value⟩ := ConfigEntry.within_of_fits (places key) fits
      have least : leastPlaces ≤ count := le_trans (by decide) first
      have most : count ≤ mostPlaces := le_trans last (by decide)
      refine ⟨.places count, count.toNat, ?_, ?_⟩
      · simp only [getPrecision, get, Config.entry, found]
        change Except.ok (Precision.ofScalar entry.value) = _
        rw [value]
        rfl
      · exact if_pos ⟨least, most⟩

end Config

/-! Taking settings into use. -/

namespace ConfigDesk

/-- That settings are in use, or what kept them from it. Documents may be given to be whole. -/
def Opened (whole : Prop) : EStateM.Result Fault ConfigDesk Unit → Prop
  | .ok _ desk => desk.config.serves = true
  | .error fault _ => fault.IsSettingsTrouble ∨ ¬whole ∧ fault = .beyondReader .halfPair

variable {desk : ConfigDesk} {whole : Prop}

theorem canSave_of_serves (serves : desk.config.serves = true) : desk.config.CanSave := by
  intro field member
  obtain ⟨entry, kept, rfl⟩ := List.mem_map.mp member
  have each := ((Config.serves_iff _).mp serves).1 entry (List.mem_of_mem_filter kept)
  obtain ⟨_, fits, _, within⟩ := (ConfigEntry.serves_iff entry).mp each
  exact ConfigEntry.canWrite_of_fits within fits

theorem save_opened (serves : desk.config.serves = true) : Opened whole (save desk) := by
  have ends := saves desk
  generalize save desk = result at ends
  cases ends with
  | nowhere => exact serves
  | whole => exact serves
  | refused kept failed => exact .inl (.inl (desk.files.write_fails _ _ _ failed))
  | begun kept cannot => exact absurd (canSave_of_serves serves) cannot

/-- Values that do not fit are passed over, so that nothing in an object of saved values fails but
one that is nested too deeply to be shown. -/
theorem loadEntries_opened {saved : Json} (short : saved.hasFewDigits = true)
    {entries : List ConfigEntry} (each : ∀ entry ∈ entries, entry.serves = true)
    (serves : desk.config.serves = true) : Opened whole (loadEntries saved entries desk) := by
  induction entries generalizing desk with
  | nil => exact serves
  | cons entry entries ih =>
      have first := each entry List.mem_cons_self
      have others := fun other member => each other (List.mem_cons_of_mem entry member)
      rw [loadEntries]
      cases there : saved.field? entry.key with
      | none => exact ih others serves
      | some value =>
          dsimp only
          rcases ConfigEntry.load_of_serves first (Json.hasFewDigits_of_field? short there) with
            failed | ⟨changed, rejected, loaded, _, changedServes⟩
          · rw [failed]
            exact .inl (.inr (.inr (.inl rfl)))
          · have servesNext := Config.serves_putEntry serves changedServes
            simp only [loaded, Act.ofExcept_ok_bind, Act.modify_bind]
            cases rejected with
            | none => exact ih others servesNext
            | some value => exact ih others servesNext

theorem loadEntries_of_no_values (entries : List ConfigEntry) (desk : ConfigDesk) :
    loadEntries (.object []) entries desk = .ok () desk := by
  induction entries with
  | nil => rfl
  | cons entry entries ih => exact ih

/-- A file without a value leaves the settings as they are. -/
theorem start_of_no_values {path : String} {place : Place}
    (kept : desk.config.savedPath = some path) (leads : desk.files.Leads path place)
    (keeps : place ≠ Files.nullPlace) (there : desk.files.textAt? place = some "\x7b\x7d") :
    start desk = .ok () desk := by
  have contained : desk.files.contains path = true := by
    refine leads.contains_iff.mpr ⟨keeps, ?_⟩
    rw [there]
    rfl
  have read : desk.files.read path = .ok "\x7b\x7d" := leads.read_text there (by decide)
  rw [start, Act.get_bind]
  simp only [kept, contained, if_true]
  rw [load, Act.get_bind, read, Act.ofExcept_ok_bind, Json.read_no_fields]
  exact loadEntries_of_no_values _ _

theorem load_opened (path : String) (serves : desk.config.serves = true) :
    Opened (desk.files.IsWhole path) (load path desk) := by
  -- Text that is no object of values is replaced by the defaults, if it can be read at all.
  rw [load, Act.get_bind]
  cases read : desk.files.read path with
  | error fault => exact .inl (.inl (desk.files.read_fails path fault read))
  | ok text =>
      rw [Act.ofExcept_ok_bind]
      cases document : Json.read text with
      | error cause =>
          cases cause with
          | beyond limit =>
              by_cases half : limit = .halfPair
              · refine .inr ⟨fun whole => whole text read ?_, congrArg _ half⟩
                rw [document, half]
              · exact .inl (.inr (.inl ⟨limit, rfl, half⟩))
          | malformed fault => exact save_opened serves
      | ok saved =>
          have short := Json.hasFewDigits_of_read document
          cases saved with
          | object fields =>
              exact loadEntries_opened short ((Config.serves_iff _).mp serves).1 serves
          | _ => exact save_opened serves

theorem start_opened (serves : desk.config.serves = true) :
    Opened (∀ path, desk.config.savedPath = some path → desk.files.IsWhole path) (start desk) := by
  rw [start, Act.get_bind]
  cases kept : desk.config.savedPath with
  | none => exact serves
  | some path =>
      dsimp only
      split
      · have opened := load_opened path serves
        generalize load path desk = result at opened ⊢
        cases result with
        | ok _ desk => exact opened
        | error fault desk =>
            exact opened.imp_right fun ⟨half, same⟩ => ⟨fun whole => half (whole path rfl), same⟩
      · exact save_opened serves

end ConfigDesk

namespace Workspace

/-- A workspace in which there is nothing but settings. -/
def withSettings (config : Config) (files : Files) (journal : Journal) : Workspace :=
  { empty with files, configs := [config], shared := some 0, journal }

/-- The first settings are taken into use with their shipped defaults. -/
theorem exists_sharedConfig (files : Files) (path : Datum) :
    ∃ shipped : Config, Config.shipped = .ok shipped ∧ shipped.serves = true ∧
      sharedConfig path { empty with files } =
        (do
          let number ← startConfig (← Act.ofExcept (shipped.keepAt path))
          modify fun space => { space with shared := some number }
          return number : Act Workspace Nat) { empty with files } := by
  obtain ⟨shipped, made, serves⟩ := Config.exists_shipped
  refine ⟨shipped, made, serves, ?_⟩
  simp only [sharedConfig, Act.get_bind, empty, made]
  rfl

theorem startConfig_of_ok {config : Config} {files : Files} {desk : ConfigDesk}
    (ran : ConfigDesk.start ⟨config, files, []⟩ = .ok () desk) :
    startConfig config { empty with files } =
      .ok 0 { empty with
              files := desk.files
              configs := [desk.config]
              journal := desk.journal } := by
  simp only [startConfig, empty, ran]
  rfl

theorem startConfig_of_error {config : Config} {files : Files} {desk : ConfigDesk} {fault : Fault}
    (ran : ConfigDesk.start ⟨config, files, []⟩ = .error fault desk) :
    startConfig config { empty with files } =
      .error fault { empty with files := desk.files, journal := desk.journal } := by
  simp only [startConfig, empty, ran]

theorem sharedConfig_fresh (files : Files) (path : Datum) :
    (∃ config after journal, sharedConfig path { empty with files } =
        .ok 0 (withSettings config after journal) ∧
      config.serves = true ∧ Journal.Quiet [] journal) ∨
    ∃ fault space, sharedConfig path { empty with files } = .error fault space ∧
      (fault.IsSettingsTrouble ∨ ∃ words, path = .text words ∧ ¬files.IsWhole words) := by
  obtain ⟨shipped, _, serves, opened⟩ := exists_sharedConfig files path
  rw [opened]
  cases kept : shipped.keepAt path with
  | error fault =>
      refine .inr ⟨fault, _, rfl, .inl (.inr (.inr (.inr ?_)))⟩
      cases path <;> cases kept <;> exact ⟨_, rfl⟩
  | ok config =>
      have configServes : config.serves = true := by
        cases path <;> cases kept <;> exact serves
      have trouble : ConfigDesk.Opened
          (∀ words, config.savedPath = some words → files.IsWhole words)
          (ConfigDesk.start ⟨config, files, []⟩) :=
        ConfigDesk.start_opened configServes
      have quiet := ConfigDesk.quiet_start ⟨config, files, []⟩
      rw [Act.ofExcept_ok_bind]
      cases ran : ConfigDesk.start ⟨config, files, []⟩ with
      | ok value desk =>
          rw [ran] at trouble
          rw [Act.after_of_ok ran] at quiet
          refine .inl ⟨desk.config, desk.files, desk.journal, ?_, trouble, quiet⟩
          exact Act.bind_of_ok _ (startConfig_of_ok ran)
      | error fault desk =>
          rw [ran] at trouble
          refine .inr ⟨fault, _, Act.bind_of_error _ (startConfig_of_error ran), ?_⟩
          refine trouble.imp_right fun ⟨half, _⟩ => ?_
          obtain ⟨words, broken⟩ := not_forall.mp half
          obtain ⟨saved, notWhole⟩ := Classical.not_imp.mp broken
          cases path <;> cases kept <;> cases saved
          exact ⟨words, rfl, notWhole⟩

section

variable {files : Files} {path : String}

/-- A file without a value leaves the defaults and the files as they are. -/
theorem sharedConfig_of_no_values {place : Place} (leads : files.Leads path place)
    (keeps : place ≠ Files.nullPlace) (there : files.textAt? place = some "\x7b\x7d") :
    ∃ shipped, Config.shipped = .ok shipped ∧
      sharedConfig (.text path) { empty with files } =
        .ok 0 (withSettings { shipped with savedPath := some path } files []) := by
  obtain ⟨shipped, made, _, opened⟩ := exists_sharedConfig files (.text path)
  have started : ConfigDesk.start ⟨{ shipped with savedPath := some path }, files, []⟩ =
      .ok () ⟨{ shipped with savedPath := some path }, files, []⟩ :=
    ConfigDesk.start_of_no_values rfl leads keeps there
  rw [opened]
  exact ⟨shipped, made, Act.bind_of_ok _ (startConfig_of_ok started)⟩

/-- Settings are not kept in memory alone. -/
theorem sharedConfig_of_unwritten {fault : Fault} (absent : files.contains path = false)
    (unwritten : ∀ text, files.write path text = .error fault) :
    ∃ space, sharedConfig (.text path) { empty with files } = .error fault space := by
  obtain ⟨shipped, _, _, opened⟩ := exists_sharedConfig files (.text path)
  have saved : ConfigDesk.save ⟨{ shipped with savedPath := some path }, files, []⟩ =
      .error fault ⟨{ shipped with savedPath := some path }, files, []⟩ := by
    have ends :=
      ConfigDesk.saves (⟨{ shipped with savedPath := some path }, files, []⟩ : ConfigDesk)
    generalize ConfigDesk.save _ = result at ends
    cases ends with
    | nowhere none => cases none
    | whole kept can written =>
        cases kept
        cases (unwritten _).symm.trans written
    | refused kept failed =>
        cases kept
        cases (unwritten _).symm.trans failed
        rfl
    | begun kept cannot written =>
        cases kept
        cases (unwritten _).symm.trans written
  have started : ConfigDesk.start ⟨{ shipped with savedPath := some path }, files, []⟩ =
      .error fault ⟨{ shipped with savedPath := some path }, files, []⟩ := by
    rw [ConfigDesk.start, Act.get_bind]
    simp only [absent, Bool.false_eq_true, if_false]
    exact saved
  have kept : shipped.keepAt (.text path) = .ok { shipped with savedPath := some path } := rfl
  rw [opened, kept, Act.ofExcept_ok_bind]
  exact ⟨_, Act.bind_of_error _ (startConfig_of_error started)⟩

end

end Workspace

end ScriptCatalog
