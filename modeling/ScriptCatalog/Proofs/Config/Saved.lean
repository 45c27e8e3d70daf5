import ScriptCatalog.Proofs.Config.Shipped
import ScriptCatalog.Proofs.Json.ReadBack

/-! Settings that are saved and then taken into use again. Each saved value fits still, so that it
is taken over as it was, and what is not saved has its default. -/

namespace ScriptCatalog

variable [Platform]

/-! Single settings. -/

namespace ConfigEntry

variable {defined entry : ConfigEntry}

/-- A value that fits is taken over from the form that it is saved in. -/
theorem load_ofScalar {value : Scalar} (fits : entry.parameter.fits value = true) :
    entry.load (.ofScalar value) = .ok ({ entry with value }, none) := by
  simp only [Parameter.fits, Bool.and_eq_true, beq_iff_eq, Bool.not_eq_true'] at fits
  obtain ⟨kind, inside⟩ := fits
  have given : entry.savedValue (.ofScalar value) = .ok (.ofScalar value) := by
    rw [← Json.ofJson_ofScalar]
    unfold savedValue
    rw [← kind]
    cases value <;> rfl
  have valid : entry.parameter.validate (.ofScalar value) false = .ok true := by
    simp [Parameter.validate, Datum.scalar?_ofScalar, kind, inside]
  have plain : Parameter.expectScalar (.ofScalar value) = .ok value := by
    simp only [Parameter.expectScalar, Datum.scalar?_ofScalar]
  refine (Except.bind_eq_ok _ _ _).mpr ⟨_, given, ?_⟩
  refine (Except.bind_eq_ok _ _ _).mpr ⟨_, valid, ?_⟩
  exact (Except.bind_eq_ok _ _ _).mpr ⟨_, plain, rfl⟩

/-- What a setting is when it is taken into use again: its value if it is saved, its default
otherwise. -/
def kept (entry : ConfigEntry) : ConfigEntry := if entry.saved then entry else entry.restoreDefault

theorem kept_key (entry : ConfigEntry) : entry.kept.key = entry.key := by
  unfold kept
  split <;> rfl

theorem kept_value (entry : ConfigEntry) :
    entry.kept.value = if entry.saved then entry.value else entry.parameter.default := by
  unfold kept
  split <;> rfl

theorem Follows.eq_with_value (follows : Follows defined entry) :
    { defined with value := entry.value } = entry := follows.same.symm

/-- Without its value a setting is what it was defined to be. -/
theorem Follows.restoreDefault_eq (follows : Follows defined entry) (made : IsDefined defined) :
    entry.restoreDefault = defined := by
  rw [follows.same, ConfigEntry.restoreDefault, ← made.value]

end ConfigEntry

/-! Saved values. -/

namespace Config

variable {config : Config} {entry : ConfigEntry}

theorem keysOf_savedValues :
    keysOf config.savedValues = (config.entries.filter (·.saved)).map (·.key) := by
  simp [keysOf, savedValues]

theorem nodup_savedValues (distinct : config.keys.Nodup) : (keysOf config.savedValues).Nodup := by
  rw [keysOf_savedValues]
  exact distinct.sublist (List.filter_sublist.map _)

/-- What is found under a key in a file of saved values. -/
theorem field?_savedValues (distinct : config.keys.Nodup) (member : entry ∈ config.entries) :
    (Json.object (Json.ofFields config.savedValues)).field? entry.key =
      if entry.saved then some (.ofScalar entry.value) else none := by
  change (Json.ofFields config.savedValues).lookup entry.key = _
  have nodup := nodup_savedValues distinct
  rw [← Json.keysOf_ofFields] at nodup
  cases saved : entry.saved with
  | true =>
      refine lookup_of_mem nodup (List.mem_map.mpr ⟨(entry.key, entry.value), ?_, rfl⟩)
      exact List.mem_map.mpr ⟨entry, List.mem_filter.mpr ⟨member, saved⟩, rfl⟩
  | false =>
      rw [if_neg Bool.false_ne_true, lookup_eq_none_iff_not_mem_keysOf, Json.keysOf_ofFields,
        keysOf_savedValues]
      intro there
      obtain ⟨other, kept, same⟩ := List.mem_map.mp there
      obtain ⟨otherMember, otherSaved⟩ := List.mem_filter.mp kept
      cases List.inj_on_of_nodup_map distinct otherMember member same
      rw [saved] at otherSaved
      cases otherSaved

/-- Settings taken into use again after they were saved. Nobody is connected to them yet. -/
def reopened (config : Config) : Config :=
  { config with entries := config.entries.map ConfigEntry.kept, connections := [] }

theorem keys_reopened (config : Config) : config.reopened.keys = config.keys := by
  simp [keys, reopened, Function.comp_def, ConfigEntry.kept_key]

theorem get_reopened {key : String} (found : config.entry key = .ok entry) :
    config.reopened.get key =
      .ok (if entry.saved then entry.value else entry.parameter.default) := by
  have there : config.reopened.entry key = .ok entry.kept := by
    refine entry_eq_ok_iff.mpr ?_
    simp only [reopened, List.find?_map, Function.comp_def, ConfigEntry.kept_key,
      entry_eq_ok_iff.mp found, Option.map_some]
  rw [get_of_entry there, ConfigEntry.kept_value]

/-- Putting a setting in its place changes that one alone. -/
theorem putEntry_append {before rest : List ConfigEntry} {definition changed : ConfigEntry}
    (distinct : ((before ++ definition :: rest).map (·.key)).Nodup)
    (same : changed.key = definition.key) (connections : List Connection) (path : Option String) :
    putEntry changed ⟨before ++ definition :: rest, connections, path⟩ =
      ⟨before ++ changed :: rest, connections, path⟩ := by
  have apart (others : List ConfigEntry) (different : ∀ other ∈ others, other.key ≠ changed.key) :
      others.map (fun other => if other.key == changed.key then changed else other) = others := by
    refine (List.map_congr_left fun other member => ?_).trans (List.map_id others)
    exact if_neg (by simpa using different other member)
  rw [List.map_append, List.map_cons, List.nodup_append, List.nodup_cons] at distinct
  obtain ⟨_, ⟨later, _⟩, earlier⟩ := distinct
  have first : before.map (fun other => if other.key == changed.key then changed else other) =
      before := by
    refine apart before fun other member => ?_
    rw [same]
    exact earlier other.key (List.mem_map_of_mem member) definition.key List.mem_cons_self
  have last : rest.map (fun other => if other.key == changed.key then changed else other) =
      rest := by
    refine apart rest fun other member equal => later ?_
    rw [← same, ← equal]
    exact List.mem_map_of_mem member
  have self : (if definition.key == changed.key then changed else definition) = changed :=
    if_pos (by simp [same])
  simp only [putEntry, List.map_append, List.map_cons, first, last, self]

end Config

/-! Settings that are taken into use again. -/

namespace ConfigDesk

variable {definitions current : List ConfigEntry} {path : String} {desk : ConfigDesk}

/-- Values are loaded setting by setting, each in its place. -/
theorem loadEntries_eq {saved : Json} {before : List ConfigEntry}
    (each : List.Forall₂ ConfigEntry.Follows definitions current)
    (made : ∀ definition ∈ definitions, definition.IsDefined)
    (distinct : ((before ++ definitions).map (·.key)).Nodup)
    (values : ∀ entry ∈ current,
      saved.field? entry.key = if entry.saved then some (.ofScalar entry.value) else none)
    (connections : List Connection) (path : Option String) (files : Files) (journal : Journal) :
    loadEntries saved definitions ⟨⟨before ++ definitions, connections, path⟩, files, journal⟩ =
      .ok () ⟨⟨before ++ current.map ConfigEntry.kept, connections, path⟩, files, journal⟩ := by
  induction each generalizing before with
  | nil => rfl
  | @cons definition entry others rest follows _ ih =>
      obtain ⟨firstMade, othersMade⟩ := List.forall_mem_cons.mp made
      obtain ⟨firstValue, otherValues⟩ := List.forall_mem_cons.mp values
      rw [loadEntries, ← follows.key, firstValue, List.map_cons]
      cases saved : entry.saved with
      | true =>
          have keys : ((before ++ [entry] ++ others).map (·.key)).Nodup := by
            simpa [follows.key] using distinct
          have loaded := ConfigEntry.load_ofScalar follows.fits
          have unchanged : entry.kept = entry := if_pos saved
          have next := ih othersMade keys otherValues
          rw [follows.eq_with_value] at loaded
          rw [List.append_assoc, List.singleton_append] at next
          simp only [if_true, loaded, Act.ofExcept_ok_bind, Act.modify_bind,
            Config.putEntry_append distinct follows.key, unchanged]
          rw [next, List.append_assoc]
          rfl
      | false =>
          have keys : ((before ++ [definition] ++ others).map (·.key)).Nodup := by
            rw [List.append_assoc]
            exact distinct
          have default : entry.kept = definition := by
            rw [ConfigEntry.kept, saved]
            exact follows.restoreDefault_eq firstMade
          have next := ih othersMade keys otherValues
          rw [List.append_assoc, List.append_assoc, List.singleton_append,
            List.singleton_append] at next
          rw [default]
          exact next

variable {defined : List ConfigEntry} {path : String} {desk : ConfigDesk}

/-- Settings that were saved are found as they were by whoever takes them into use next. -/
theorem start_of_saved (settled : Settled defined (some path) desk)
    (made : ∀ definition ∈ defined, definition.IsDefined)
    (distinct : (defined.map (·.key)).Nodup) {files : Files}
    (saved : save desk = .ok () { desk with files }) (keeps : files.contains path = true)
    (journal : Journal) :
    start ⟨⟨defined, [], some path⟩, files, journal⟩ =
      .ok () ⟨desk.config.reopened, files, journal⟩ := by
  have keys : desk.config.keys.Nodup := settled.follows.keys ▸ distinct
  obtain ⟨can, written⟩ := (save_eq_ok saved).2.1 path settled.savedPath
  have text := Files.read_of_write written keeps (Json.return_not_mem_write _)
  have values := Json.read_write (Config.nodup_savedValues keys) can
  have all : (([] ++ defined).map ConfigEntry.key).Nodup := distinct
  have loaded := loadEntries_eq settled.follows made all
    (fun entry member => Config.field?_savedValues keys member) [] (some path) files journal
  have reopened : Config.mk (desk.config.entries.map ConfigEntry.kept) [] (some path) =
      desk.config.reopened := by
    rw [Config.reopened, settled.savedPath]
  rw [start, Act.get_bind]
  dsimp only
  rw [if_pos keeps, load, Act.get_bind]
  dsimp only
  rw [text, Act.ofExcept_ok_bind, values, ← reopened]
  exact loaded

end ConfigDesk

end ScriptCatalog
