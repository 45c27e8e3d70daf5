import ScriptCatalog.Proofs.Config.Reached
import ScriptCatalog.Proofs.Runner.Recording

/-! The shipped settings in use. Whatever is done with them, a history is configured with a positive
whole number of commands, and it is settled whether commands are logged. -/

namespace ScriptCatalog

variable [Platform]

namespace Config

def shippedEntries : List ConfigEntry := (shipped.toOption.map (·.entries)).getD []

theorem shipped_eq : shipped = .ok ⟨shippedEntries, [], none⟩ := by
  obtain ⟨config, made, _⟩ := exists_shipped
  have entries : shippedEntries = config.entries := by
    rw [shippedEntries, made]
    rfl
  obtain ⟨_, _, plain⟩ := (Except.bind_eq_ok _ _ _).mp made
  obtain ⟨defined, _, plain⟩ := (Except.bind_eq_ok _ _ _).mp plain
  cases plain
  rw [made, entries]

theorem isDefined_shippedEntries : ∀ entry ∈ shippedEntries, entry.IsDefined := by
  obtain ⟨_, _, made⟩ := (Except.bind_eq_ok _ _ _).mp shipped_eq
  obtain ⟨defined, given, made⟩ := (Except.bind_eq_ok _ _ _).mp made
  cases made
  exact (definedEntries_eq_ok given).2

theorem keys_shippedEntries : shippedEntries.map (·.key) =
    [precisionKey, logCommandsKey, maxHistoryKey, resetIdsKey] := rfl

theorem nodup_shippedEntries : (shippedEntries.map (·.key)).Nodup := by
  rw [keys_shippedEntries]
  decide

theorem logCommandsKey_mem : logCommandsKey ∈ shippedEntries.map (·.key) := by
  rw [keys_shippedEntries]
  decide

theorem maxHistoryKey_mem : maxHistoryKey ∈ shippedEntries.map (·.key) := by
  rw [keys_shippedEntries]
  decide

/-- No shipped setting is a real number, and those that are whole numbers are from 1 to 1000. -/
theorem isWithin_of_shipped : ∀ entry ∈ shippedEntries,
    entry.parameter.kind ≠ .real ∧ (entry.parameter.kind = .int → entry.isWithin 1000 = true) := by
  have all : shippedEntries.all (fun entry => decide (entry.parameter.kind ≠ .real) &&
      decide (entry.parameter.kind = .int → entry.isWithin 1000 = true)) = true := rfl
  intro entry member
  have each := List.all_eq_true.mp all entry member
  rw [Bool.and_eq_true, decide_eq_true_eq, decide_eq_true_eq] at each
  exact each

theorem kind_of_maxHistoryKey :
    ∀ entry ∈ shippedEntries, entry.key = maxHistoryKey → entry.parameter.kind = .int := by
  have all : shippedEntries.all (fun entry =>
      decide (entry.key = maxHistoryKey → entry.parameter.kind = .int)) = true := rfl
  exact fun entry member => of_decide_eq_true (List.all_eq_true.mp all entry member)

variable {config : Config} {definition entry : ConfigEntry} {key : String}

theorem count_of_follows (member : definition ∈ shippedEntries) (follows : definition.Follows entry)
    (key : entry.key = maxHistoryKey) : ∃ count : Int, 0 < count ∧ entry.value = .int count := by
  have kind := kind_of_maxHistoryKey definition member (follows.key.symm.trans key)
  obtain ⟨count, least, _, value⟩ :=
    ConfigEntry.within_of_fits ((isWithin_of_shipped definition member).2 kind) follows.fits
  exact ⟨count, by omega, value⟩

/-- The values of shipped settings can always be written out. -/
theorem canSave_of_follows (follows : config.Follows shippedEntries) : config.CanSave := by
  intro field member
  obtain ⟨entry, kept, rfl⟩ := List.mem_map.mp member
  obtain ⟨definition, there, each⟩ := follows.mem (List.mem_of_mem_filter kept)
  exact ConfigEntry.canWrite_of_fits (isWithin_of_shipped definition there).2 each.fits

theorem get_of_entry (found : config.entry key = .ok entry) : config.get key = .ok entry.value := by
  rw [get, found]
  rfl

theorem entry_eq_ok_iff : config.entry key = .ok entry ↔
    config.entries.find? (·.key == key) = some entry := by
  unfold Config.entry Config.entry?
  cases config.entries.find? (·.key == key) with
  | none => exact ⟨nofun, nofun⟩
  | some held => simp

theorem key_of_entry (found : config.entry key = .ok entry) : entry.key = key := by
  have same := List.find?_some (entry_eq_ok_iff.mp found)
  exact eq_of_beq same

/-- Putting a setting in its place leaves each where it is found. -/
theorem find?_putEntry (changed : ConfigEntry) (config : Config) (key : String) :
    (config.putEntry changed).entries.find? (·.key == key) =
      (config.entries.find? (·.key == key)).map fun held =>
        if held.key == changed.key then changed else held := by
  have asks : (fun other : ConfigEntry =>
      (if other.key == changed.key then changed else other).key == key) =
        fun other => other.key == key := by
    funext other
    split
    next same => rw [eq_of_beq same]
    next => rfl
  simp only [putEntry, List.find?_map, Function.comp_def, asks]

theorem keys_putEntry (changed : ConfigEntry) (config : Config) :
    (config.putEntry changed).keys = config.keys := by
  rw [keys, putEntry, List.map_map]
  refine List.map_congr_left fun other _ => ?_
  rw [Function.comp_apply]
  split
  next same => exact (eq_of_beq same).symm
  next => rfl

theorem get_putEntry_self {changed : ConfigEntry} (found : config.entry key = .ok entry)
    (same : changed.key = key) : (config.putEntry changed).get key = .ok changed.value := by
  refine get_of_entry (entry_eq_ok_iff.mpr ?_)
  rw [find?_putEntry, entry_eq_ok_iff.mp found, Option.map_some, key_of_entry found, same,
    beq_self_eq_true, if_pos rfl]

theorem get_putEntry_of_ne {changed : ConfigEntry} (different : changed.key ≠ key)
    (found : config.entry key = .ok entry) :
    (config.putEntry changed).get key = config.get key := by
  rw [get_of_entry found]
  refine get_of_entry (entry_eq_ok_iff.mpr ?_)
  have apart : (entry.key == changed.key) = false := by
    rw [key_of_entry found]
    exact beq_false_of_ne different.symm
  rw [find?_putEntry, entry_eq_ok_iff.mp found, Option.map_some, apart]
  rfl

/-- The number of commands that a history is configured with. -/
theorem exists_maxHistory (follows : config.Follows shippedEntries) :
    ∃ count : Int, 0 < count ∧ config.get maxHistoryKey = .ok (.int count) := by
  have known : maxHistoryKey ∈ config.keys := by
    rw [follows.keys]
    exact maxHistoryKey_mem
  obtain ⟨value, given⟩ := config.get_of_mem_keys _ known
  obtain ⟨entry, found, same⟩ := (Except.bind_eq_ok _ _ _).mp given
  cases same
  obtain ⟨definition, member, each⟩ := follows.mem (mem_of_entry found)
  obtain ⟨count, positive, value⟩ :=
    count_of_follows member each (key_of_entry found)
  exact ⟨count, positive, given.trans (congrArg Except.ok value)⟩

end Config

namespace ConfigDesk

/-- A shipped setting whose file can be written is changed and saved, or the value is refused and
nothing is changed. -/
theorem change_of_shipped {desk : ConfigDesk} {path : Option String}
    (settled : Settled Config.shippedEntries path desk)
    (keeps : desk.files.CanKeep desk.config.savedPath) (key : String) (value : Datum)
    (saving : Bool) :
    (∃ fault, change key value saving desk = .error fault desk ∧
      (desk.config.entry key = .error fault ∨
        ∃ entry, desk.config.entry key = .ok entry ∧ entry.set value = .error fault)) ∨
    ∃ entry changed differs files, desk.config.entry key = .ok entry ∧
      entry.set value = .ok (changed, differs) ∧
      Settled Config.shippedEntries path ⟨desk.config.putEntry changed, files, desk.journal⟩ ∧
      change key value saving desk =
        .ok (noticesOf differs changed.value (desk.config.connected key))
          ⟨desk.config.putEntry changed, files, desk.journal⟩ := by
  cases found : desk.config.entry key with
  | error fault => exact .inl ⟨fault, change_of_refused (.inl found), .inl rfl⟩
  | ok entry =>
      cases given : entry.set value with
      | error fault =>
          refine .inl ⟨fault, change_of_refused (.inr ⟨entry, found, given⟩), .inr ⟨entry, rfl, ?_⟩⟩
          exact given
      | ok outcome =>
          obtain ⟨changed, differs⟩ := outcome
          have next := settled.change Config.nodup_shippedEntries key value saving
          obtain ⟨definition, member, before⟩ := settled.follows.mem (Config.mem_of_entry found)
          have follows := Config.follows_putEntry settled.follows Config.nodup_shippedEntries
            member (before.set given)
          have savable :
              ({ desk with config := desk.config.putEntry changed } : ConfigDesk).Savable :=
            ⟨keeps, fun _ => Config.canSave_of_follows follows⟩
          obtain ⟨files, ran, _⟩ :=
            change_of_savable found given fun _ (_ : saving = true) => savable
          rw [Act.after_of_ok ran] at next
          exact .inr ⟨entry, changed, differs, files, rfl, given, next, ran⟩

end ConfigDesk

end ScriptCatalog
