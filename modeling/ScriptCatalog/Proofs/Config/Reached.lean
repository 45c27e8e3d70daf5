import ScriptCatalog.Proofs.Config.Files
import ScriptCatalog.Proofs.Tool.Settings

/-! Settings in use. Whatever is done with them, each is as it was defined but for its value, which
fits; and a file that they could once be saved in is one that they can be saved in. -/

namespace ScriptCatalog

variable [Platform]

/-! Single settings. -/

namespace ConfigEntry

/-- A setting as a definition makes it: its value is its default, which fits. -/
structure IsDefined (entry : ConfigEntry) : Prop where
  value : entry.value = entry.parameter.default
  fits : entry.parameter.fits entry.parameter.default = true

/-- A setting as it was defined but for its value, which fits. -/
structure Follows (defined entry : ConfigEntry) : Prop where
  same : entry = { defined with value := entry.value }
  fits : defined.parameter.fits entry.value = true

variable {defined entry changed : ConfigEntry}

theorem Follows.key (follows : Follows defined entry) : entry.key = defined.key := by
  rw [follows.same]

theorem Follows.parameter (follows : Follows defined entry) :
    entry.parameter = defined.parameter := by
  rw [follows.same]

theorem Follows.saved (follows : Follows defined entry) : entry.saved = defined.saved := by
  rw [follows.same]

theorem Follows.with_value (follows : Follows defined entry) {value : Scalar}
    (fits : defined.parameter.fits value = true) : Follows defined { entry with value } := by
  refine ⟨?_, fits⟩
  rw [follows.same]

theorem IsDefined.follows (made : IsDefined defined) : Follows defined defined :=
  ⟨rfl, made.value ▸ made.fits⟩

theorem Follows.restoreDefault (follows : Follows defined entry) (made : IsDefined defined) :
    Follows defined entry.restoreDefault := by
  refine follows.with_value ?_
  rw [follows.parameter]
  exact made.fits

theorem fits_of_validate_strict {parameter : Parameter} {value : Datum} {scalar : Scalar}
    {valid : Bool} (plain : value.scalar? = some scalar)
    (checked : parameter.validate value true = .ok valid) : parameter.fits scalar = true := by
  simp only [Parameter.validate, plain] at checked
  split at checked
  next => cases checked
  next same =>
    split at checked
    next => cases checked
    next inside =>
      simp only [not_not] at same
      simp [Parameter.fits, same, inside]

theorem expectScalar_eq_ok {value : Datum} {scalar : Scalar}
    (plain : Parameter.expectScalar value = .ok scalar) : value.scalar? = some scalar := by
  unfold Parameter.expectScalar at plain
  cases given : value.scalar? with
  | none =>
      rw [given] at plain
      cases plain
  | some held =>
      rw [given] at plain
      cases plain
      rfl

/-- A parameter that can be made has plain limits, which only numbers have, and a valid default. -/
theorem make_eq_ok {name default description minimum maximum : Datum} {parameter : Parameter}
    (made : Parameter.make name default description minimum maximum = .ok parameter) :
    ∃ held lower upper valid, Parameter.expectScalar default = .ok held ∧
      (minimum.isNull = true ∧ maximum.isNull = true ∨ held.kind.isNumeric = true) ∧
      Parameter.limit name held.kind minimum = .ok lower ∧
      Parameter.limit name held.kind maximum = .ok upper ∧
      parameter = ⟨name, held, description, lower, upper⟩ ∧
      parameter.validate (.ofScalar held) true = .ok valid := by
  obtain ⟨size, _, made⟩ := (Except.bind_eq_ok _ _ _).mp made
  obtain ⟨_, made⟩ := Except.unless_eq_ok.mp made
  obtain ⟨held, plain, made⟩ := (Except.bind_eq_ok _ _ _).mp made
  obtain ⟨allowed, made⟩ := Except.unless_eq_ok.mp made
  obtain ⟨lower, least, made⟩ := (Except.bind_eq_ok _ _ _).mp made
  obtain ⟨upper, greatest, made⟩ := (Except.bind_eq_ok _ _ _).mp made
  dsimp only at made
  -- The limits are compared only where there are two of them.
  have checks : (do
      let _ ← Parameter.validate ⟨name, held, description, lower, upper⟩ (.ofScalar held) true
      return ⟨name, held, description, lower, upper⟩) = Except.ok (ε := Fault) parameter := by
    split at made
    · exact (Except.unless_eq_ok.mp made).2
    · exact made
  obtain ⟨valid, checked, same⟩ := (Except.bind_eq_ok _ _ _).mp checks
  cases same
  have numbers : minimum.isNull = true ∧ maximum.isNull = true ∨ held.kind.isNumeric = true := by
    simpa [or_iff_not_imp_left] using allowed
  exact ⟨held, lower, upper, valid, plain, numbers, least, greatest, rfl, checked⟩

theorem fits_of_make {name description minimum maximum : Datum} {default : Scalar}
    {parameter : Parameter}
    (made : Parameter.make name (.ofScalar default) description minimum maximum = .ok parameter) :
    parameter.default = default ∧ parameter.fits default = true := by
  obtain ⟨held, lower, upper, valid, plain, _, _, _, rfl, checked⟩ := make_eq_ok made
  cases (expectScalar_eq_ok plain).symm.trans (Datum.scalar?_ofScalar default)
  exact ⟨rfl, fits_of_validate_strict (Datum.scalar?_ofScalar default) checked⟩

/-- What a definition makes is a setting that has a parameter and the default of it. -/
theorem ofDefinition_eq_ok {key : String} {definition : Json}
    (made : ofDefinition key definition = .ok entry) :
    ∃ name default description minimum maximum parameter category saved,
      Parameter.make name (.ofScalar default) description minimum maximum = .ok parameter ∧
        entry = ⟨key, parameter, category, saved, default⟩ := by
  obtain ⟨type, _, made⟩ := (Except.bind_eq_ok _ _ _).mp made
  obtain ⟨label, _, made⟩ := (Except.bind_eq_ok _ _ _).mp made
  obtain ⟨category, _, made⟩ := (Except.bind_eq_ok _ _ _).mp made
  obtain ⟨description, _, made⟩ := (Except.bind_eq_ok _ _ _).mp made
  obtain ⟨kind, _, made⟩ := (Except.bind_eq_ok _ _ _).mp made
  obtain ⟨default, _, made⟩ := (Except.bind_eq_ok _ _ _).mp made
  obtain ⟨range, _, made⟩ := (Except.bind_eq_ok _ _ _).mp made
  obtain ⟨minimum, _, made⟩ := (Except.bind_eq_ok _ _ _).mp made
  obtain ⟨maximum, _, made⟩ := (Except.bind_eq_ok _ _ _).mp made
  obtain ⟨parameter, given, made⟩ := (Except.bind_eq_ok _ _ _).mp made
  cases made
  exact ⟨_, _, _, _, _, _, _, _, given, rfl⟩

/-- A definition makes a setting under the key that it stands under. -/
theorem isDefined_of_ofDefinition {key : String} {definition : Json}
    (made : ofDefinition key definition = .ok entry) : entry.key = key ∧ IsDefined entry := by
  obtain ⟨_, _, _, _, _, _, _, _, given, rfl⟩ := ofDefinition_eq_ok made
  obtain ⟨rfl, fits⟩ := fits_of_make given
  exact ⟨rfl, rfl, fits⟩

/-- A value that is set fits, and is told apart from the one before if it does not equal it. -/
theorem set_eq_ok {value : Datum} {differs : Bool}
    (given : entry.set value = .ok (changed, differs)) :
    ∃ scalar, value.scalar? = some scalar ∧ entry.parameter.fits scalar = true ∧
      changed = { entry with value := scalar } ∧ differs = !entry.value.same scalar := by
  obtain ⟨valid, checked, given⟩ := (Except.bind_eq_ok _ _ _).mp given
  obtain ⟨scalar, plain, given⟩ := (Except.bind_eq_ok _ _ _).mp given
  cases given
  have held := expectScalar_eq_ok plain
  exact ⟨scalar, held, fits_of_validate_strict held checked, rfl, rfl⟩

theorem Follows.set (follows : Follows defined entry) {value : Datum} {differs : Bool}
    (given : entry.set value = .ok (changed, differs)) : Follows defined changed := by
  obtain ⟨scalar, _, fits, rfl, _⟩ := set_eq_ok given
  exact follows.with_value (follows.parameter ▸ fits)

theorem Follows.load (follows : Follows defined entry) {saved : Json} {rejected : Option Datum}
    (given : entry.load saved = .ok (changed, rejected)) : Follows defined changed := by
  obtain ⟨value, _, given⟩ := (Except.bind_eq_ok _ _ _).mp given
  obtain ⟨valid, checked, given⟩ := (Except.bind_eq_ok _ _ _).mp given
  cases valid with
  | false =>
      cases given
      exact follows
  | true =>
      obtain ⟨scalar, plain, given⟩ := (Except.bind_eq_ok _ _ _).mp given
      cases given
      have fits := Parameter.fits_of_validate (expectScalar_eq_ok plain) checked
      exact follows.with_value (follows.parameter ▸ fits)

end ConfigEntry

/-! Settings in the order they were defined. -/

namespace Config

variable {defined entries : List ConfigEntry} {definition changed : ConfigEntry}

theorem definedEntries_eq_ok {fields : List (String × Json)}
    (made : definedEntries fields = .ok entries) :
    entries.map (·.key) = keysOf fields ∧ ∀ entry ∈ entries, entry.IsDefined := by
  induction fields generalizing entries with
  | nil =>
      cases made
      exact ⟨rfl, List.forall_mem_nil _⟩
  | cons field rest ih =>
      obtain ⟨key, definition⟩ := field
      obtain ⟨_, _, made⟩ := (Except.bind_eq_ok _ _ _).mp made
      obtain ⟨entry, first, made⟩ := (Except.bind_eq_ok _ _ _).mp made
      obtain ⟨others, later, made⟩ := (Except.bind_eq_ok _ _ _).mp made
      cases made
      obtain ⟨rfl, isDefined⟩ := ConfigEntry.isDefined_of_ofDefinition first
      obtain ⟨keys, each⟩ := ih later
      refine ⟨?_, List.forall_mem_cons.mpr ⟨isDefined, each⟩⟩
      rw [List.map_cons, keys, keysOf_cons]

/-- Each setting follows the definition in its place. -/
def Follows (config : Config) (defined : List ConfigEntry) : Prop :=
  List.Forall₂ ConfigEntry.Follows defined config.entries

theorem follows_of_isDefined (each : ∀ entry ∈ defined, entry.IsDefined)
    (connections : List Connection) (path : Option String) :
    Follows ⟨defined, connections, path⟩ defined :=
  List.forall₂_same.mpr fun entry member => (each entry member).follows

variable {config : Config}

theorem Follows.mem (follows : config.Follows defined) {entry : ConfigEntry}
    (member : entry ∈ config.entries) : ∃ definition ∈ defined, definition.Follows entry :=
  exists_mem_of_forall₂ follows member

theorem Follows.keys (follows : config.Follows defined) :
    config.keys = defined.map (·.key) := by
  obtain ⟨entries, connections, path⟩ := config
  have each : List.Forall₂ ConfigEntry.Follows defined entries := follows
  change entries.map (·.key) = defined.map (·.key)
  induction each with
  | nil => rfl
  | cons first others ih => rw [List.map_cons, List.map_cons, ih others, first.key]

theorem mem_of_entry {key : String} {entry : ConfigEntry}
    (found : config.entry key = .ok entry) : entry ∈ config.entries := by
  unfold Config.entry at found
  split at found
  next held there =>
    cases found
    exact List.mem_of_find?_eq_some there
  next => cases found

theorem follows_putEntry (follows : config.Follows defined)
    (distinct : (defined.map (·.key)).Nodup) (member : definition ∈ defined)
    (entry : definition.Follows changed) : (config.putEntry changed).Follows defined := by
  have only (other : ConfigEntry) (there : other ∈ defined) (same : other.key = definition.key) :
      other = definition := List.inj_on_of_nodup_map distinct there member same
  refine List.forall₂_map_right_iff.mpr ?_
  refine List.forall₂_iff_zip.mpr ⟨follows.length_eq, fun {other held} paired => ?_⟩
  have before : other.Follows held := (List.forall₂_iff_zip.mp follows).2 paired
  split
  next same =>
    have key : other.key = definition.key :=
      before.key.symm.trans ((eq_of_beq same).trans entry.key)
    cases only other (List.of_mem_zip paired).1 key
    exact entry
  next => exact before

theorem Follows.restoreDefaults (follows : config.Follows defined)
    (each : ∀ entry ∈ defined, entry.IsDefined) : config.restoreDefaults.Follows defined := by
  refine List.forall₂_map_right_iff.mpr ?_
  refine List.forall₂_iff_zip.mpr ⟨follows.length_eq, fun {definition held} paired => ?_⟩
  have before : definition.Follows held := (List.forall₂_iff_zip.mp follows).2 paired
  exact before.restoreDefault (each definition (List.of_mem_zip paired).1)

end Config

/-! Settings with the file they are kept in. -/

namespace ConfigDesk

variable {defined : List ConfigEntry} {path : Option String} {desk after : ConfigDesk}

/-- Settings that follow their definitions and are kept where a file can be, or nowhere. -/
structure Settled (defined : List ConfigEntry) (path : Option String) (desk : ConfigDesk) :
    Prop where
  follows : desk.config.Follows defined
  savedPath : desk.config.savedPath = path
  leads : ∀ kept ∈ path, ∃ place, desk.files.Leads kept place

/-- Settings in use: what comes of settings as they were defined, from when their values were loaded
or their defaults saved. Others may connect to them and write files meanwhile. -/
inductive Reached (defined : List ConfigEntry) (path : Option String) : ConfigDesk → Prop
  | started (files : Files) (journal : Journal) {desk : ConfigDesk}
      (ran : start ⟨⟨defined, [], path⟩, files, journal⟩ = .ok () desk) : Reached defined path desk
  | changed (key : String) (value : Datum) (saving : Bool) {desk : ConfigDesk}
      (reached : Reached defined path desk) :
      Reached defined path (Act.after (change key value saving) desk)
  | saved {desk : ConfigDesk} (reached : Reached defined path desk) :
      Reached defined path (Act.after save desk)
  | restored {desk : ConfigDesk} (reached : Reached defined path desk) :
      Reached defined path { desk with config := desk.config.restoreDefaults }
  | connected (connections : List Connection) {desk : ConfigDesk}
      (reached : Reached defined path desk) :
      Reached defined path { desk with config := { desk.config with connections } }
  | wrote {other text : String} {files : Files} {desk : ConfigDesk}
      (reached : Reached defined path desk) (written : desk.files.write other text = .ok files) :
      Reached defined path { desk with files }
  | noted (journal : Journal) {desk : ConfigDesk} (reached : Reached defined path desk) :
      Reached defined path { desk with journal }

theorem Settled.write {other text : String} {files : Files} (settled : Settled defined path desk)
    (written : desk.files.write other text = .ok files) :
    Settled defined path { desk with files } := by
  obtain ⟨_, _, rfl⟩ := Files.write_eq_ok_iff.mp written
  refine ⟨settled.follows, settled.savedPath, fun kept is => ?_⟩
  obtain ⟨place, leads⟩ := settled.leads kept is
  exact ⟨place, leads.put⟩

theorem Settled.saves {result : EStateM.Result Fault ConfigDesk Unit}
    (settled : Settled defined path desk) (ends : Saves desk result) :
    Settled defined path (Act.stateOf result) := by
  obtain ⟨config, _, same | ⟨other, text, written⟩⟩ := ends.same
  · refine ⟨?_, ?_, ?_⟩
    · rw [config]
      exact settled.follows
    · rw [config]
      exact settled.savedPath
    · rw [same]
      exact settled.leads
  · have next := settled.write written
    refine ⟨?_, ?_, next.leads⟩
    · rw [config]
      exact settled.follows
    · rw [config]
      exact settled.savedPath

theorem Settled.save (settled : Settled defined path desk) :
    Settled defined path (Act.after save desk) := settled.saves (ConfigDesk.saves desk)

theorem Settled.putEntry (settled : Settled defined path desk)
    (distinct : (defined.map (·.key)).Nodup) {definition changed : ConfigEntry}
    (member : definition ∈ defined) (entry : definition.Follows changed) :
    Settled defined path { desk with config := desk.config.putEntry changed } :=
  ⟨Config.follows_putEntry settled.follows distinct member entry, settled.savedPath, settled.leads⟩

/-- However a change ends, the settings follow their definitions as before. -/
theorem Settled.changeEnds {key : String} {value : Datum} {saving : Bool}
    {result : EStateM.Result Fault ConfigDesk (List Notice)} (settled : Settled defined path desk)
    (distinct : (defined.map (·.key)).Nodup) (ends : ChangeEnds desk key value saving result) :
    Settled defined path (Act.stateOf result) := by
  have next {entry changed : ConfigEntry} {differs : Bool}
      (found : desk.config.entry key = .ok entry)
      (given : entry.set value = .ok (changed, differs)) :
      Settled defined path { desk with config := desk.config.putEntry changed } := by
    obtain ⟨definition, member, before⟩ := settled.follows.mem (Config.mem_of_entry found)
    exact settled.putEntry distinct member (before.set given)
  cases ends with
  | refused => exact settled
  | made found given saved =>
      split at saved
      · have after := (next found given).save
        rw [Act.after_of_ok saved] at after
        exact after
      · cases saved
        exact next found given
  | unsaved found given asked failed =>
      have after := (next found given).save
      rw [Act.after_of_error failed] at after
      exact after

theorem Settled.change (settled : Settled defined path desk)
    (distinct : (defined.map (·.key)).Nodup) (key : String) (value : Datum) (saving : Bool) :
    Settled defined path (Act.after (change key value saving) desk) :=
  settled.changeEnds distinct (ConfigDesk.changeEnds desk key value saving)

theorem Settled.loadEntries (distinct : (defined.map (·.key)).Nodup) (saved : Json)
    {entries : List ConfigEntry}
    (each : ∀ entry ∈ entries, ∃ definition ∈ defined, definition.Follows entry)
    (settled : Settled defined path desk) :
    Settled defined path (Act.after (loadEntries saved entries) desk) := by
  induction entries generalizing desk with
  | nil => exact settled
  | cons entry entries ih =>
      obtain ⟨⟨definition, member, follows⟩, others⟩ := List.forall_mem_cons.mp each
      rw [ConfigDesk.loadEntries]
      cases saved.field? entry.key with
      | none => exact ih others settled
      | some value =>
          dsimp only
          cases loaded : entry.load value with
          | error fault => exact settled
          | ok outcome =>
              obtain ⟨changed, rejected⟩ := outcome
              have next := settled.putEntry distinct member (follows.load loaded)
              cases rejected with
              | none => exact ih others next
              | some value => exact ih others ⟨next.follows, next.savedPath, next.leads⟩

theorem Settled.load (distinct : (defined.map (·.key)).Nodup) (kept : String)
    (settled : Settled defined path desk) :
    Settled defined path (Act.after (load kept) desk) := by
  rw [Act.after, ConfigDesk.load, Act.get_bind]
  cases desk.files.read kept with
  | error fault => exact settled
  | ok text =>
      rw [Act.ofExcept_ok_bind]
      cases Json.read text with
      | error cause =>
          cases cause with
          | beyond limit => exact settled
          | malformed fault =>
              exact Settled.save ⟨settled.follows, settled.savedPath, settled.leads⟩
      | ok saved =>
          cases saved with
          | object fields =>
              exact settled.loadEntries distinct _ fun entry member => settled.follows.mem member
          | _ => exact Settled.save ⟨settled.follows, settled.savedPath, settled.leads⟩

/-- Settings that could be taken into use are kept where a file can be from then on. -/
theorem settled_of_start (distinct : (defined.map (·.key)).Nodup)
    (each : ∀ entry ∈ defined, entry.IsDefined) {files : Files} {journal : Journal}
    (ran : start ⟨⟨defined, [], path⟩, files, journal⟩ = .ok () desk) :
    Settled defined path desk := by
  have follows := Config.follows_of_isDefined each [] path
  rw [start, Act.get_bind] at ran
  cases path with
  | none =>
      cases ran
      refine ⟨follows, rfl, ?_⟩
      rintro _ ⟨⟩
  | some kept =>
      dsimp only at ran
      split at ran
      · have settled : Settled defined (some kept) ⟨⟨defined, [], some kept⟩, files, journal⟩ := by
          refine ⟨follows, rfl, ?_⟩
          rintro _ ⟨⟩
          obtain ⟨_, read, _⟩ := (Act.bind_ofExcept_eq_ok _ _ _ _ _).mp ran
          exact Files.leads_of_read read
        have next := settled.load distinct kept
        rw [Act.after_of_ok ran] at next
        exact next
      · obtain ⟨same, written, _⟩ := save_eq_ok ran
        obtain ⟨_, wrote⟩ := written kept rfl
        obtain ⟨place, takes, files⟩ := Files.write_eq_ok_iff.mp wrote
        rw [same]
        refine ⟨follows, rfl, ?_⟩
        rintro _ ⟨⟩
        rw [files]
        exact ⟨place, takes.toLeads.put⟩

theorem Reached.settled (distinct : (defined.map (·.key)).Nodup)
    (each : ∀ entry ∈ defined, entry.IsDefined) (reached : Reached defined path desk) :
    Settled defined path desk := by
  induction reached with
  | started files journal ran => exact settled_of_start distinct each ran
  | changed key value saving _ ih => exact ih.change distinct key value saving
  | saved _ ih => exact ih.save
  | restored _ ih => exact ⟨ih.follows.restoreDefaults each, ih.savedPath, ih.leads⟩
  | connected connections _ ih => exact ⟨ih.follows, ih.savedPath, ih.leads⟩
  | wrote _ written ih => exact ih.write written
  | noted journal _ ih => exact ⟨ih.follows, ih.savedPath, ih.leads⟩

/-! Connections are made by others, and paths do not close. -/

/-- Settings that have the connections they had before, and are kept at the same path; where files
could be written they still can be. -/
structure Continues (before after : ConfigDesk) : Prop where
  connections : after.config.connections = before.config.connections
  savedPath : after.config.savedPath = before.config.savedPath
  takes : ∀ path place, before.files.Takes path place → after.files.Takes path place

instance : IsPreorder ConfigDesk Continues where
  refl _ := ⟨rfl, rfl, fun _ _ => id⟩
  trans _ _ _ left right := ⟨right.connections.trans left.connections,
    right.savedPath.trans left.savedPath,
    fun path place takes => right.takes path place (left.takes path place takes)⟩

theorem Continues.canKeep {before after : ConfigDesk} (continues : Continues before after)
    {path : Option String} (keeps : before.files.CanKeep path) : after.files.CanKeep path :=
  fun kept same => (keeps kept same).imp (continues.takes kept)

theorem continues_save : Act.Moves Continues save := by
  intro desk
  obtain ⟨config, _, files⟩ := (saves desk).same
  refine ⟨congrArg Config.connections config, congrArg Config.savedPath config, ?_⟩
  rcases files with same | ⟨path, text, written⟩
  · intro other place takes
    exact same.symm ▸ takes
  · obtain ⟨_, _, put⟩ := Files.write_eq_ok_iff.mp written
    intro other place takes
    exact put.symm ▸ takes.put

theorem continues_log (channel : Channel) (text : String) :
    Act.Moves Continues (log channel text) :=
  fun _ => ⟨rfl, rfl, fun _ _ => id⟩

theorem continues_putEntry (entry : ConfigEntry) :
    Act.Moves Continues (modify fun desk => { desk with config := desk.config.putEntry entry }) :=
  fun _ => ⟨rfl, rfl, fun _ _ => id⟩

theorem continues_loadEntries (saved : Json) (entries : List ConfigEntry) :
    Act.Moves Continues (ConfigDesk.loadEntries saved entries) := by
  induction entries with
  | nil => exact (Act.reads_pure ()).moves
  | cons entry entries ih =>
      rw [ConfigDesk.loadEntries]
      cases saved.field? entry.key with
      | none => exact ih
      | some value =>
          refine (Act.reads_ofExcept _).moves.bind fun loaded => ?_
          refine (continues_putEntry loaded.1).bind fun _ => ?_
          cases loaded.2 with
          | none => exact ih
          | some value => exact (continues_log _ _).bind fun _ => ih

theorem continues_start : Act.Moves Continues start := by
  refine Act.reads_get.moves.bind fun desk => ?_
  cases desk.config.savedPath with
  | none => exact (Act.reads_pure ()).moves
  | some path =>
      dsimp only
      split
      next =>
        refine Act.reads_get.moves.bind fun desk => (Act.reads_ofExcept _).moves.bind fun text => ?_
        have restores (problem : String) : Act.Moves Continues (do
            log .config problem
            save) := (continues_log _ _).bind fun _ => continues_save
        cases Json.read text with
        | error cause =>
            cases cause with
            | beyond limit => exact (Act.reads_throw _).moves
            | malformed fault => exact restores _
        | ok saved =>
            cases saved with
            | object fields => exact continues_loadEntries _ _
            | _ => exact restores _
      next => exact continues_save

theorem continues_change (key : String) (value : Datum) (saving : Bool) :
    Act.Moves Continues (change key value saving) := by
  refine Act.reads_get.moves.bind fun desk => (Act.reads_ofExcept _).moves.bind fun entry => ?_
  refine (Act.reads_ofExcept _).moves.bind fun outcome => ?_
  refine (continues_putEntry outcome.1).bind fun _ => ?_
  dsimp only
  split
  · split
    · exact continues_save.bind fun _ => Act.reads_get.moves.bind fun _ =>
        (Act.reads_pure _).moves
    · exact Act.reads_get.moves.bind fun _ => (Act.reads_pure _).moves
  · exact (Act.reads_pure _).moves

end ConfigDesk

end ScriptCatalog
