import ScriptCatalog.Proofs.Config.Loaded
import ScriptCatalog.Proofs.Workspace.Configured

/-! Saving settings. Whenever a change is saved, the file of the settings holds every saved value as
it is then, those that were changed without being saved included. A value equal to the present one
is no change: nothing is written then, so that what was not saved before is not saved either. -/

namespace ScriptCatalog

section

variable [Platform]

namespace Config

variable {config : Config} {entry : ConfigEntry} {files after : Files} {path : String}

/-- A file holds each saved value as it is. -/
def HeldIn (config : Config) (files : Files) (path : String) : Prop :=
  ∃ text saved, files.read path = .ok text ∧ Json.read text = .ok saved ∧
    ∀ entry ∈ config.entries, entry.saved = true → ∃ value, config.get entry.key = .ok value ∧
      saved.field? entry.key = some (.ofScalar value)

/-- Saved values are held in the file that they were written in, if it keeps what is written. -/
theorem heldIn_of_write (distinct : config.keys.Nodup) (can : config.CanSave)
    (written : files.write path (Json.write config.savedValues) = .ok after)
    (keeps : after.contains path = true) : config.HeldIn after path := by
  have read := Files.read_of_write written keeps (Json.return_not_mem_write _)
  refine ⟨_, _, read, Json.read_write (nodup_savedValues distinct) can,
    fun entry member saved => ?_⟩
  refine ⟨entry.value, get_of_mem distinct member, ?_⟩
  exact (field?_savedValues distinct member).trans (if_pos saved)

/-- Putting a setting in the place where it is changes nothing. -/
theorem putEntry_self (distinct : config.keys.Nodup) (member : entry ∈ config.entries) :
    config.putEntry entry = config := by
  have each : config.entries.map (fun other => if other.key == entry.key then entry else other) =
      config.entries := by
    refine (List.map_congr_left fun other there => ?_).trans (List.map_id _)
    split
    next same => exact List.inj_on_of_nodup_map distinct member there (eq_of_beq same).symm
    next => rfl
  rw [putEntry, each]

end Config

namespace ConfigDesk

variable {desk after : ConfigDesk} {path : String}

/-- Of a change that is to be saved everything is saved, but only if the value differs from the one
before. -/
theorem change_saving_eq_ok {key : String} {value : Datum} {notices : List Notice}
    (kept : desk.config.savedPath = some path)
    (ran : change key value true desk = .ok notices after) :
    ∃ entry scalar, desk.config.entry key = .ok entry ∧ value.scalar? = some scalar ∧
      after.config = desk.config.putEntry { entry with value := scalar } ∧
      (entry.value.same scalar = false → after.config.CanSave ∧
        desk.files.write path (Json.write after.config.savedValues) = .ok after.files) ∧
      (entry.value.same scalar = true → after.files = desk.files) := by
  have ends := changeEnds desk key value true
  rw [ran] at ends
  cases ends with
  | made found given saved config journal =>
      obtain ⟨scalar, plain, _, rfl, rfl⟩ := ConfigEntry.set_eq_ok given
      refine ⟨_, scalar, found, plain, config, fun differs => ?_, fun same => ?_⟩
      · rw [differs] at saved
        rw [config]
        exact (save_eq_ok saved).2.1 path kept
      · rw [same] at saved
        cases saved
        rfl

end ConfigDesk

namespace Workspace

variable {space start before after : Workspace} {path key : String} {number : Nat} {value : Datum}

theorem changeSetting_eq_ok {listeners : Listeners} (discreet : listeners.Discreet)
    {config : Config} {saving : Bool} (there : before.configs[number]? = some config)
    (ran : changeSettingAmong listeners number key value saving before = .ok () after) :
    ∃ notices desk, ConfigDesk.change key value saving ⟨config, before.files, before.journal⟩ =
        .ok notices desk ∧
      after.configs[number]? = some desk.config ∧ after.files = desk.files := by
  obtain ⟨notices, between, changed, told⟩ := (Act.bind_eq_ok _ _ _ _ _).mp ran
  have around := around_notifyAll discreet notices between
  rw [Act.after_of_ok told] at around
  rw [onConfig_eq _ there, Act.on] at changed
  cases went : ConfigDesk.change key value saving ⟨config, before.files, before.journal⟩ with
  | error fault desk =>
      rw [went] at changed
      cases changed
  | ok held desk =>
      rw [went] at changed
      cases changed
      refine ⟨_, desk, rfl, ?_, around.files⟩
      rw [around.configs]
      exact List.getElem?_set_self (List.getElem?_eq_some_iff.mp there).1

/-- Of settings that are kept at a path a change that is saved is saved with everything that was not
saved before: the file, if it is one that keeps what is written, holds each saved value as it is
then. But a value that equals the present one is not saved, and neither is what was not saved
before. -/
theorem saving_change_writes_all {listeners : Listeners} (discreet : listeners.Discreet)
    (opens : Opens path number space start)
    (turns : Relation.ReflTransGen (SettingsTurn number) start before)
    (ran : changeSettingAmong listeners number key value true before = .ok () after) :
    ∃ (config changed : Config) (entry : ConfigEntry) (scalar : Scalar),
      before.configs[number]? = some config ∧ after.configs[number]? = some changed ∧
      config.entry key = .ok entry ∧ value.scalar? = some scalar ∧
      changed.get key = .ok scalar ∧
      (entry.value.same scalar = false →
        before.files.write path (Json.write changed.savedValues) = .ok after.files ∧
        (after.files.contains path = true → changed.HeldIn after.files path)) ∧
      (entry.value.same scalar = true → after.files = before.files ∧
        (entry.value = scalar → changed = config)) := by
  obtain ⟨defined, distinct, made, inUse⟩ := opens.inUse
  obtain ⟨config, there, reached, _⟩ := (keepsInUse_turns turns).inUse inUse
  have settled := reached.settled distinct made
  have keys : config.keys.Nodup := settled.follows.keys ▸ distinct
  obtain ⟨notices, desk, changed, held, files⟩ := changeSetting_eq_ok discreet there ran
  have next := settled.change distinct key value true
  rw [Act.after_of_ok changed] at next
  have keysNext : desk.config.keys.Nodup := next.follows.keys ▸ distinct
  obtain ⟨entry, scalar, found, plain, made, saves, leaves⟩ :=
    ConfigDesk.change_saving_eq_ok settled.savedPath changed
  have named : entry.key = key := Config.key_of_entry found
  rw [files]
  refine ⟨config, desk.config, entry, scalar, there, held, found, plain, ?_, ?_, ?_⟩
  · rw [made]
    exact Config.get_putEntry_self found named
  · intro differs
    obtain ⟨can, written⟩ := saves differs
    exact ⟨written, Config.heldIn_of_write keysNext can written⟩
  · -- Equal values can differ still: one zero is set to the other without being saved.
    refine fun same => ⟨leaves same, ?_⟩
    rintro rfl
    rw [made]
    exact Config.putEntry_self keys (Config.mem_of_entry found)

end Workspace

end

namespace Workspace

variable {key : String} {value : Datum}

/-! Two settings of which one is saved. -/

/-- The two settings in use, kept in the file `s`, with nothing saved yet. -/
def gauging (x : Binary64) (n : Int) : Workspace :=
  { empty with files := devices, configs := [(measuring "s" x n).config] }

theorem opens_gauging : Opens "s" 0 { empty with files := devices } (gauging .zero 0) :=
  .defined "d" (openConfig_of_start { empty with files := devices }
    (readDefinitions_devices takes_d.toLeads rfl) ofDefinitions_definedJson start_measuring)

/-- A setting is changed, and nobody is told of it. -/
theorem changeSetting_gauging {x : Binary64} {n : Int} {entry changed : ConfigEntry}
    {differs saving : Bool} {desk : ConfigDesk}
    (found : (measuring "s" x n).config.entry key = .ok entry)
    (given : entry.set value = .ok (changed, differs))
    (saved : (if differs && saving then ConfigDesk.save else pure ())
      { measuring "s" x n with config := (measuring "s" x n).config.putEntry changed } =
        .ok () desk) :
    changeSetting 0 key value saving (gauging x n) = .ok () { gauging x n with
      configs := [desk.config], files := desk.files, journal := desk.journal } := by
  have ran := ConfigDesk.change_of_set found given saved
  have quiet : noticesOf differs changed.value ((measuring "s" x n).config.connected key) = [] :=
    ite_self []
  have there : (gauging x n).configs[0]? = some (measuring "s" x n).config := rfl
  rw [changeSetting, changeSettingAmong, Act.bind_of_ok _ (onConfig_of_ok there ran), quiet]
  rfl

/-- The number is set to another one without being saved, or to the same one. -/
theorem changeSetting_gauging_x (x y : Binary64) (n : Int) {saving : Bool}
    (unsaved : (!x.same y && saving) = false) :
    changeSetting 0 "x" (.real y) saving (gauging x n) = .ok () (gauging y n) := by
  have given : ((measured x n).head (List.cons_ne_nil _ _)).set (.real y) =
      .ok ((measured y n).head (List.cons_ne_nil _ _), !x.same y) := rfl
  have saved : (if !x.same y && saving then ConfigDesk.save else pure ()) (measuring "s" y n) =
      .ok () (measuring "s" y n) := by
    rw [unsaved]
    rfl
  exact changeSetting_gauging rfl given saved

/-- The number is changed and not saved. -/
theorem turns_gauging :
    Relation.ReflTransGen (SettingsTurn 0) (gauging .zero 0) (gauging .one 0) := by
  have turn : SettingsTurn 0 (gauging .zero 0)
      (Act.after (changeSetting 0 "x" (.real .one) false) (gauging .zero 0)) :=
    .set Listeners.harmless_silent.discreet "x" (.real .one) false
  rw [Act.after_of_ok (changeSetting_gauging_x .zero .one 0 (Bool.and_false _))] at turn
  exact .single turn

/-- The number that was changed is saved with the other one that is changed later. -/
theorem saving_change_writes_all_gauging :
    ∃ after config, changeSetting 0 "n" (.int 5) true (gauging .one 0) = .ok () after ∧
      after.configs[0]? = some config ∧ config.get "x" = .ok (.real .one) ∧
      config.HeldIn after.files "s" := by
  have saved := ConfigDesk.save_of_takes (measuring "s" .one 5) rfl takes_s
    (canSave_measured .one 5 [] _)
  have ran : changeSetting 0 "n" (.int 5) true (gauging .one 0) = .ok () _ :=
    changeSetting_gauging rfl rfl saved
  obtain ⟨config, changed, entry, scalar, there, held, found, plain, _, saves, _⟩ :=
    saving_change_writes_all Listeners.harmless_silent.discreet opens_gauging turns_gauging ran
  cases there
  cases found
  cases plain
  cases held
  exact ⟨_, _, ran, rfl, rfl, (saves rfl).2 (takes_s.contains_put (by decide))⟩

/-- A number that is changed and not saved is not saved either if it is set to the same again. -/
theorem equal_value_not_saved :
    Opens "s" 0 { empty with files := devices } (gauging .zero 0) ∧
      Relation.ReflTransGen (SettingsTurn 0) (gauging .zero 0) (gauging .one 0) ∧
      changeSetting 0 "x" (.real .one) true (gauging .one 0) = .ok () (gauging .one 0) ∧
      ∃ config, (gauging .one 0).configs[0]? = some config ∧
        config.get "x" = .ok (.real .one) ∧ config.savedValues = [("x", .real .one)] ∧
        (gauging .one 0).files.read "s" = .ok "\x7b\x7d" ∧
        ¬config.HeldIn (gauging .one 0).files "s" := by
  have same : (!Binary64.one.same .one && true) = false := by decide +kernel
  have read : devices.read "s" = .ok "\x7b\x7d" := takes_s.read_text rfl (by decide)
  refine ⟨opens_gauging, turns_gauging, changeSetting_gauging_x .one .one 0 same, _, rfl, rfl, rfl,
    read, ?_⟩
  rintro ⟨text, saved, again, document, held⟩
  cases read.symm.trans again
  cases Json.read_no_fields.symm.trans document
  obtain ⟨value, _, found⟩ := held _ List.mem_cons_self rfl
  cases found

end Workspace

end ScriptCatalog
