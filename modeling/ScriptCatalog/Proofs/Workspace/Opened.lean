import ScriptCatalog.Proofs.Config.Loaded
import ScriptCatalog.Proofs.Workspace.Reopened

/-! Opening settings with whatever their file holds. Invalid values are passed over one by one, and
a text that is no object of values is replaced. Three things keep settings from being opened: a text
that goes beyond the reader, an integer too large for a setting that is a real number, and a value
that is nested too deeply to be shown. -/

namespace ScriptCatalog

namespace Workspace

open ConfigEntry

section

variable [Platform]

variable {space : Workspace} {definitionsPath path text : String} {definitions : Json}
  {defined : List ConfigEntry} {fields : List (String × Json)}

theorem openConfig_eq_startConfig (space : Workspace)
    (read : Config.readDefinitions space.files (.text definitionsPath) = .ok definitions)
    (accepted : Config.ofDefinitions definitions = .ok ⟨defined, [], none⟩) :
    openConfig (.text definitionsPath) (.text path) space =
      startConfig ⟨defined, [], some path⟩ space := by
  rw [openConfig, Act.get_bind, read, Act.ofExcept_ok_bind, accepted, Act.ofExcept_ok_bind]
  rfl

theorem startConfig_of_failed {config : Config} {fault : Fault} {desk : ConfigDesk}
    (failed : ConfigDesk.start ⟨config, space.files, space.journal⟩ = .error fault desk) :
    startConfig config space =
      .error fault { space with files := desk.files, journal := desk.journal } := by
  rw [startConfig, failed]

/-- Settings that find certain saved values are taken into use with them, unless one of them is
stopped. -/
theorem startConfig_of_loaded (space : Workspace)
    (made : ∀ definition ∈ defined, definition.IsDefined) (distinct : (defined.map (·.key)).Nodup)
    (loaded : ConfigDesk.Loaded fields defined path space.files
      (ConfigDesk.start ⟨⟨defined, [], some path⟩, space.files, space.journal⟩)) :
    (∀ fault, FirstStops fields defined fault → ∃ journal,
      startConfig ⟨defined, [], some path⟩ space = .error fault { space with journal }) ∧
    (Passes fields defined → ∃ config files journal,
      startConfig ⟨defined, [], some path⟩ space = .ok space.configs.length
        { space with configs := space.configs ++ [config], files, journal } ∧
      config.TakesOver fields defined) := by
  cases ran : ConfigDesk.start ⟨⟨defined, [], some path⟩, space.files, space.journal⟩ with
  | error cause desk =>
      rw [ran] at loaded
      obtain ⟨stopped, same⟩ := loaded
      refine ⟨fun fault stops => ⟨desk.journal, ?_⟩, fun passes => absurd passes stopped.not_passes⟩
      rw [startConfig_of_failed ran, same, stops.unique stopped]
  | ok value desk =>
      rw [ran] at loaded
      obtain ⟨passes, each, _, _⟩ := loaded
      refine ⟨fun fault stops => absurd passes stops.not_passes,
        fun _ => ⟨desk.config, desk.files, desk.journal, ?_, ?_⟩⟩
      · rw [startConfig, ran]
      · exact Config.takesOver_of_loads made distinct each

end

/-! Texts of saved values. -/

/-- Files with definitions `d` of two settings and a text `s` of saved values. -/
def storing (text : String) : Files := devices.put ["dev", "s"] text

theorem readDefinitions_storing (text : String) :
    Config.readDefinitions (storing text) (.text "d") = .ok definedJson :=
  readDefinitions_devices takes_d.toLeads.put rfl

theorem contains_storing (text : String) : (storing text).contains "s" = true :=
  takes_s.contains_put (by decide)

theorem takes_storing (text : String) : (storing text).Takes "s" ["dev", "s"] := takes_s.put

theorem read_storing (feeds : '\r' ∉ text.toList) : (storing text).read "s" = .ok text := by
  have written : devices.write "s" text = .ok (storing text) :=
    Files.write_eq_ok_iff.mpr ⟨_, takes_s, rfl⟩
  exact Files.read_of_write written (contains_storing text) feeds

theorem savedIn_write {values : List (String × Scalar)} (distinct : (keysOf values).Nodup)
    (can : ∀ field ∈ values, Json.canWrite field.2 = true) :
    Json.savedIn (Json.write values) = .ok (Json.ofFields values) := by
  rw [Json.savedIn, Json.read_write distinct can]

/-- Of two values that are saved a number without a point is converted, and a text is passed over
where a whole number is asked for. -/
def mixed : List (String × Scalar) := [("x", .int 3), ("n", .text "many")]

theorem ofInt?_three : Binary64.ofInt? 3 = some (.ofNat 3) := by decide +kernel

theorem savedIn_mixed : Json.savedIn (Json.write mixed) = .ok (Json.ofFields mixed) :=
  savedIn_write (by decide) (List.forall_mem_cons.mpr
    ⟨isShort_of_natAbs_lt (by decide), List.forall_mem_singleton.mpr rfl⟩)

/-- A whole number that no real number is near. -/
def immense : List (String × Scalar) := [("x", .int (10 ^ 400))]

theorem firstStops_immense :
    FirstStops (Json.ofFields immense) (measured .zero 0) .intTooLarge := by
  refine ⟨[], _, _, rfl, List.forall_mem_nil _, _, rfl, .tooLarge rfl rfl ?_⟩
  decide +kernel

end Workspace

end ScriptCatalog
