import ScriptCatalog.Proofs.Config.Saved

/-! Settings that are taken into use with whatever their file holds. Each has the value saved under
its key if that is one that fits, and its default otherwise. Three things are not passed over: a
text that goes beyond the reader, an integer too large for a setting that is a real number, and a
value that is nested too deeply to be shown. -/

namespace ScriptCatalog

variable [Platform]

/-! What is saved. -/

namespace Json

/-- The plain value that a value is. An integer stands for the real number nearest to it, too. -/
inductive StandsFor : Json → Scalar → Prop
  | bool (value : Bool) : StandsFor (.bool value) (.bool value)
  | int (value : Int) : StandsFor (.int value) (.int value)
  | real (value : Binary64) : StandsFor (.real value) (.real value)
  | string (value : String) : StandsFor (.string value) (.text value)
  | converted {value : Int} {number : Binary64} (nearest : Binary64.ofInt? value = some number) :
      StandsFor (.int value) (.real number)

theorem standsFor_of_scalar? {value : Json} {scalar : Scalar}
    (plain : (Datum.ofJson value).scalar? = some scalar) : value.StandsFor scalar := by
  cases value with
  | bool value =>
      cases plain
      exact .bool value
  | int value =>
      cases plain
      exact .int value
  | real value =>
      cases plain
      exact .real value
  | string value =>
      cases plain
      exact .string value
  | null => cases plain
  | array items => cases plain
  | object fields => cases plain

/-- The values under their keys that a text holds, and none if it holds no object. A text that goes
beyond the reader is not read. -/
def savedIn (text : String) : Except Limit (List (String × Json)) :=
  match read text with
  | .ok (.object fields) => .ok fields
  | .ok _ => .ok []
  | .error (.malformed _) => .ok []
  | .error (.beyond limit) => .error limit

end Json

/-- The values that are saved at a path, and none if there is no file. -/
def Files.savedAt (files : Files) (path : String) : Except Json.Limit (List (String × Json)) :=
  if files.contains path then
    match files.read path with
    | .ok text => Json.savedIn text
    | .error _ => .ok []
  else .ok []

theorem Files.savedAt_of_read {files : Files} {path text : String}
    (keeps : files.contains path = true) (read : files.read path = .ok text) :
    files.savedAt path = Json.savedIn text := by
  rw [savedAt, if_pos keeps, read]

/-! Single settings. -/

namespace ConfigEntry

variable {definition entry : ConfigEntry} {defined : List ConfigEntry}
  {fields : List (String × Json)} {saved : Json} {value other : Scalar} {fault : Fault}

/-- A saved value is one that the setting can have. -/
def Accepts (entry : ConfigEntry) (saved : Json) (value : Scalar) : Prop :=
  saved.StandsFor value ∧ entry.parameter.fits value = true

/-- What a setting has once saved values are taken over: the value under its key if it is one that
the setting can have, its default otherwise. -/
inductive Takes (fields : List (String × Json)) (definition : ConfigEntry) : Scalar → Prop
  | saved {json : Json} {value : Scalar} (found : fields.lookup definition.key = some json)
      (accepts : definition.Accepts json value) : Takes fields definition value
  | default (nothing : ∀ json value, fields.lookup definition.key = some json →
      ¬definition.Accepts json value) : Takes fields definition definition.parameter.default

/-- A saved value that can be neither taken over nor passed over: an integer too large for a setting
that is a real number, or a value that is nested too deeply to be shown. -/
inductive Stops (entry : ConfigEntry) (saved : Json) : Fault → Prop
  | tooLarge {number : Int} (kind : entry.parameter.kind = .real) (int : saved = .int number)
      (far : Binary64.ofInt? number = none) : Stops entry saved .intTooLarge
  | tooDeep (deep : (Datum.ofJson saved).unshown? = some .tooDeep) :
      Stops entry saved .shownTooDeep

/-- There is such a value under the key of a setting. -/
def StopsOn (fields : List (String × Json)) (definition : ConfigEntry) (fault : Fault) : Prop :=
  ∃ saved, fields.lookup definition.key = some saved ∧ definition.Stops saved fault

/-- There is no such value under the key of any setting. -/
def Passes (fields : List (String × Json)) (defined : List ConfigEntry) : Prop :=
  ∀ definition ∈ defined, ∀ fault, ¬StopsOn fields definition fault

/-- The first setting with such a value under its key causes a fault. -/
def FirstStops (fields : List (String × Json)) (defined : List ConfigEntry) (fault : Fault) :
    Prop :=
  ∃ before definition after, defined = before ++ definition :: after ∧ Passes fields before ∧
    StopsOn fields definition fault

theorem kind_of_fits (fits : entry.parameter.fits value = true) :
    value.kind = entry.parameter.kind := by
  rw [Parameter.fits, Bool.and_eq_true, beq_iff_eq] at fits
  exact fits.1

/-- There is at most one value that a setting can take over from a saved one. -/
theorem Accepts.unique (accepts : entry.Accepts saved value) (others : entry.Accepts saved other) :
    value = other := by
  have kinds := (kind_of_fits accepts.2).trans (kind_of_fits others.2).symm
  obtain ⟨first, _⟩ := accepts
  obtain ⟨second, _⟩ := others
  cases first with
  | bool value =>
      cases second
      rfl
  | real value =>
      cases second
      rfl
  | string value =>
      cases second
      rfl
  | int value =>
      cases second with
      | int => rfl
      | converted => cases kinds
  | converted nearest =>
      cases second with
      | int => cases kinds
      | converted again => rw [Option.some.inj (nearest.symm.trans again)]

theorem Takes.unique (takes : Takes fields definition value)
    (others : Takes fields definition other) : value = other := by
  cases takes with
  | saved found accepts =>
      cases others with
      | saved again others =>
          cases found.symm.trans again
          exact accepts.unique others
      | default nothing => exact absurd accepts (nothing _ _ found)
  | default nothing =>
      cases others with
      | saved again others => exact absurd others (nothing _ _ again)
      | default => rfl

theorem Takes.fits (takes : Takes fields definition value) (made : definition.IsDefined) :
    definition.parameter.fits value = true := by
  cases takes with
  | saved found accepts => exact accepts.2
  | default => exact made.fits

theorem unshown?_of_scalar? (datum : Datum) (plain : datum.scalar? = some value) :
    datum.unshown? ≠ some .tooDeep := by
  cases datum with
  | int number =>
      rw [Datum.unshown?_int]
      split <;> nofun
  | bool held => nofun
  | real held => nofun
  | text held => nofun
  | _ => cases plain

/-- A value that stops a setting is none that it can have, and stops it with one fault. -/
theorem Stops.not_accepts (stops : entry.Stops saved fault) : ¬entry.Accepts saved value := by
  rintro ⟨stands, fits⟩
  cases stops with
  | tooLarge kind int far =>
      cases int
      cases stands with
      | int => cases (kind_of_fits fits).trans kind
      | converted nearest => cases far.symm.trans nearest
  | tooDeep deep =>
      cases stands with
      | bool held => cases deep
      | int number => exact unshown?_of_scalar? (.int number) rfl deep
      | real held => cases deep
      | string held => cases deep
      | converted nearest => exact unshown?_of_scalar? (.int _) rfl deep

theorem Stops.unique {another : Fault} (stops : entry.Stops saved fault)
    (others : entry.Stops saved another) : fault = another := by
  cases stops with
  | tooLarge kind int far =>
      cases others with
      | tooLarge => rfl
      | tooDeep deep =>
          cases int
          exact absurd deep (unshown?_of_scalar? (.int _) rfl)
  | tooDeep deep =>
      cases others with
      | tooLarge kind int far =>
          cases int
          exact absurd deep (unshown?_of_scalar? (.int _) rfl)
      | tooDeep => rfl

/-- A saved value is too large, or it is read as one that the setting can have if there is one. A
value is plain if what it is read as is. -/
theorem savedValue_cases (entry : ConfigEntry) (saved : Json) :
    (entry.Stops saved .intTooLarge ∧ entry.savedValue saved = .error .intTooLarge) ∨
      ¬entry.Stops saved .intTooLarge ∧ ∃ read, entry.savedValue saved = .ok read ∧
        (read.scalar? = none → read = .ofJson saved) ∧
        (∀ value, read.scalar? = some value → ∃ held, (Datum.ofJson saved).scalar? = some held) ∧
        ∀ value, entry.parameter.fits value = true →
          (read.scalar? = some value ↔ saved.StandsFor value) := by
  fun_cases savedValue entry saved with
  | case1 number kind real nearest =>
      refine .inr ⟨?_, .real real, rfl, nofun, fun _ _ => ⟨_, rfl⟩,
        fun value fits => ⟨?_, fun stands => ?_⟩⟩
      · rintro ⟨_, ⟨⟩, tooLarge⟩
        cases nearest.symm.trans tooLarge
      · rintro ⟨⟩
        exact .converted nearest
      · cases stands with
        | int => cases (kind_of_fits fits).trans kind
        | converted again => rw [Datum.scalar?, Option.some.inj (again.symm.trans nearest)]
  | case2 number kind tooLarge => exact .inl ⟨.tooLarge kind rfl tooLarge, rfl⟩
  | case3 saved direct =>
      refine .inr ⟨?_, _, rfl, fun _ => rfl, fun value plain => ⟨value, plain⟩,
        fun value fits => ⟨Json.standsFor_of_scalar?, fun stands => ?_⟩⟩
      · rintro ⟨kind, same, _⟩
        exact direct _ kind same
      · cases stands with
        | converted => exact absurd rfl (direct _ (kind_of_fits fits).symm)
        | _ => rfl

theorem validate_false_of_scalar? (parameter : Parameter) {datum : Datum}
    (plain : datum.scalar? = some value) :
    parameter.validate datum false = .ok (parameter.fits value) := by
  rw [Parameter.validate, plain]
  dsimp only [Parameter.fits]
  by_cases kind : value.kind = parameter.kind
  · cases parameter.outside value <;> simp [kind]
  · simp [kind]

theorem validate_false_of_composite (parameter : Parameter) {datum : Datum}
    (composite : datum.scalar? = none) :
    parameter.validate datum false =
      (datum.unshown?.elim (.ok false) fun obstacle => .error obstacle.fault) := by
  rw [Parameter.validate, composite]
  cases datum.unshown? <;> rfl

/-- What comes of a saved value: it stops the setting, or it is taken over, or it is passed over. -/
theorem load_cases (entry : ConfigEntry) (short : saved.hasFewDigits = true) :
    (∃ fault, entry.Stops saved fault ∧ entry.load saved = .error fault) ∨
      (∀ fault, ¬entry.Stops saved fault) ∧
        ((∃ value, entry.Accepts saved value ∧
            entry.load saved = .ok ({ entry with value }, none)) ∨
          (∀ value, ¬entry.Accepts saved value) ∧
            ∃ rejected, entry.load saved = .ok (entry, some rejected)) := by
  rcases savedValue_cases entry saved with
    ⟨large, refused⟩ | ⟨small, read, given, direct, plainly, reads⟩
  · refine .inl ⟨_, large, ?_⟩
    rw [load, refused]
    rfl
  have loaded {valid : Bool} (checked : entry.parameter.validate read false = .ok valid) :
      entry.load saved = (if valid then do
          let scalar ← Parameter.expectScalar read
          return ({ entry with value := scalar }, none)
        else return (entry, some read)) := by
    rw [load, given]
    change (entry.parameter.validate read false >>= _) = _
    rw [checked]
    rfl
  cases plain : read.scalar? with
  | some value =>
      have checked := validate_false_of_scalar? entry.parameter plain
      have passes : ∀ fault, ¬entry.Stops saved fault := by
        intro fault stops
        cases stops with
        | tooLarge kind int far => exact small (.tooLarge kind int far)
        | tooDeep deep =>
            obtain ⟨held, same⟩ := plainly value plain
            exact unshown?_of_scalar? _ same deep
      refine .inr ⟨passes, ?_⟩
      rw [loaded checked]
      cases fits : entry.parameter.fits value with
      | true =>
          refine .inl ⟨value, ⟨(reads value fits).mp plain, fits⟩, ?_⟩
          rw [if_pos rfl, Parameter.expectScalar, plain]
          rfl
      | false =>
          refine .inr ⟨fun other accepts => ?_, read, rfl⟩
          cases plain.symm.trans ((reads other accepts.2).mpr accepts.1)
          cases fits.symm.trans accepts.2
  | none =>
      cases direct plain
      have checked := validate_false_of_composite entry.parameter plain
      have isRead : (Datum.ofJson saved).IsRead := ⟨saved, short, rfl⟩
      cases unshown : (Datum.ofJson saved).unshown? with
      | some obstacle =>
          cases isRead.unshown? unshown
          refine .inl ⟨_, .tooDeep unshown, ?_⟩
          rw [unshown] at checked
          rw [load, given]
          change (entry.parameter.validate (Datum.ofJson saved) false >>= _) = _
          rw [checked]
          rfl
      | none =>
          rw [unshown] at checked
          refine .inr ⟨?_, .inr ⟨fun value accepts => ?_, _, loaded checked⟩⟩
          · intro fault stops
            cases stops with
            | tooLarge kind int far => exact small (.tooLarge kind int far)
            | tooDeep deep => cases unshown.symm.trans deep
          · cases plain.symm.trans ((reads value accepts.2).mpr accepts.1)

/-- A setting as it was defined but for its value, which is what it takes over. -/
structure Loads (fields : List (String × Json)) (definition entry : ConfigEntry) : Prop where
  same : entry = { definition with value := entry.value }
  takes : definition.Takes fields entry.value

theorem Loads.key (loads : Loads fields definition entry) : entry.key = definition.key := by
  rw [loads.same]

theorem Loads.follows (loads : Loads fields definition entry) (made : definition.IsDefined) :
    definition.Follows entry := ⟨loads.same, loads.takes.fits made⟩

theorem loads_default (made : definition.IsDefined)
    (nothing : ∀ json value, fields.lookup definition.key = some json →
      ¬definition.Accepts json value) : Loads fields definition definition := by
  refine ⟨rfl, ?_⟩
  rw [made.value]
  exact .default nothing

/-- What is saved for a setting stops it, or the setting takes what there is for it. -/
theorem loads_cases (made : definition.IsDefined)
    (found : fields.lookup definition.key = some saved) (short : saved.hasFewDigits = true) :
    (∃ fault, StopsOn fields definition fault ∧ definition.load saved = .error fault) ∨
      (∀ fault, ¬StopsOn fields definition fault) ∧ ∃ entry rejected,
        Loads fields definition entry ∧ definition.load saved = .ok (entry, rejected) := by
  have only {json : Json} (there : fields.lookup definition.key = some json) : json = saved :=
    Option.some.inj (there.symm.trans found)
  rcases load_cases definition short with ⟨fault, stops, failed⟩ | ⟨passes, loaded⟩
  · exact .inl ⟨fault, ⟨saved, found, stops⟩, failed⟩
  · refine .inr ⟨?_, ?_⟩
    · rintro fault ⟨json, there, stops⟩
      exact passes fault (only there ▸ stops)
    · rcases loaded with ⟨value, accepts, loaded⟩ | ⟨nothing, rejected, loaded⟩
      · exact ⟨_, none, ⟨rfl, .saved found accepts⟩, loaded⟩
      · refine ⟨definition, some rejected, loads_default made fun json value there => ?_, loaded⟩
        rw [only there]
        exact nothing value

/-- Settings that nothing stops have none that is the first to be stopped, and there is at most one
that is. -/
theorem FirstStops.not_passes (stops : FirstStops fields defined fault) :
    ¬Passes fields defined := by
  obtain ⟨before, definition, after, rfl, _, here⟩ := stops
  exact fun passes => passes definition (by simp) fault here

theorem FirstStops.unique {another : Fault} (stops : FirstStops fields defined fault)
    (others : FirstStops fields defined another) : fault = another := by
  obtain ⟨before, definition, after, rfl, passes, saved, found, here⟩ := stops
  obtain ⟨earlier, other, later, split, passesToo, json, there, hereToo⟩ := others
  -- Neither of the two can stand before the other.
  rcases List.append_eq_append_iff.mp split with ⟨middle, rfl, rest⟩ | ⟨middle, rfl, rest⟩
  · cases middle with
    | nil =>
        rw [List.nil_append] at rest
        cases rest
        cases found.symm.trans there
        exact here.unique hereToo
    | cons first middle =>
        cases rest
        exact absurd ⟨saved, found, here⟩ (passesToo definition (by simp) fault)
  · cases middle with
    | nil =>
        rw [List.nil_append] at rest
        cases rest
        cases found.symm.trans there
        exact here.unique hereToo
    | cons first middle =>
        cases rest
        exact absurd ⟨json, there, hereToo⟩ (passes other (by simp) another)

end ConfigEntry

/-! Settings in the order they were defined. -/

namespace Config

open ConfigEntry

variable {config : Config} {defined : List ConfigEntry} {fields : List (String × Json)}

theorem get_of_mem (distinct : config.keys.Nodup) {entry : ConfigEntry}
    (member : entry ∈ config.entries) : config.get entry.key = .ok entry.value := by
  obtain ⟨value, given⟩ := config.get_of_mem_keys entry.key (List.mem_map_of_mem member)
  obtain ⟨held, found, _⟩ := (Except.bind_eq_ok _ _ _).mp given
  cases List.inj_on_of_nodup_map distinct (mem_of_entry found) member (key_of_entry found)
  exact get_of_entry found

/-- Settings that were defined so and have what they take from certain saved values. -/
structure TakesOver (config : Config) (fields : List (String × Json))
    (defined : List ConfigEntry) : Prop where
  keys : config.keys = defined.map (·.key)
  values : ∀ definition ∈ defined, ∃ value, config.get definition.key = .ok value ∧
    definition.Takes fields value

theorem TakesOver.get_of_takes (takes : config.TakesOver fields defined)
    {definition : ConfigEntry} (member : definition ∈ defined) {value : Scalar}
    (took : definition.Takes fields value) : config.get definition.key = .ok value := by
  obtain ⟨held, got, others⟩ := takes.values definition member
  rw [got, others.unique took]

theorem takesOver_of_loads (made : ∀ definition ∈ defined, definition.IsDefined)
    (distinct : (defined.map (·.key)).Nodup)
    (each : List.Forall₂ (Loads fields) defined config.entries) :
    config.TakesOver fields defined := by
  have follows : config.Follows defined := by
    refine List.forall₂_iff_zip.mpr ⟨each.length_eq, fun {definition entry} paired => ?_⟩
    have loads := (List.forall₂_iff_zip.mp each).2 paired
    exact loads.follows (made definition (List.of_mem_zip paired).1)
  have keys : config.keys.Nodup := follows.keys ▸ distinct
  refine ⟨follows.keys, fun definition member => ?_⟩
  obtain ⟨entry, there, loads⟩ := exists_mem_of_forall₂ each.flip member
  rw [← loads.key]
  exact ⟨entry.value, get_of_mem keys there, loads.takes⟩

end Config

/-! Settings with the file they are kept in. -/

namespace ConfigDesk

open ConfigEntry

variable {definition : ConfigEntry} {definitions before rest : List ConfigEntry}
  {fields : List (String × Json)}

/-- The first setting is loaded in its place, unless what is saved for it stops it. -/
theorem loadEntries_cons (made : definition.IsDefined)
    (distinct : ((before ++ definition :: rest).map (·.key)).Nodup)
    (short : Json.fieldsHaveFewDigits fields = true) (connections : List Connection)
    (path : Option String) (files : Files) (journal : Journal) :
    (∃ fault, StopsOn fields definition fault ∧
      loadEntries (.object fields) (definition :: rest)
          ⟨⟨before ++ definition :: rest, connections, path⟩, files, journal⟩ =
        .error fault ⟨⟨before ++ definition :: rest, connections, path⟩, files, journal⟩) ∨
    (∀ fault, ¬StopsOn fields definition fault) ∧ ∃ entry noted,
      Loads fields definition entry ∧
      loadEntries (.object fields) (definition :: rest)
          ⟨⟨before ++ definition :: rest, connections, path⟩, files, journal⟩ =
        loadEntries (.object fields) rest
          ⟨⟨before ++ entry :: rest, connections, path⟩, files, noted⟩ := by
  have field : (Json.object fields).field? definition.key = fields.lookup definition.key := rfl
  rw [loadEntries, field]
  cases found : fields.lookup definition.key with
  | none =>
      refine .inr ⟨?_, definition, journal, loads_default made ?_, rfl⟩
      · rintro _ ⟨_, there, _⟩
        cases found.symm.trans there
      · intro json value there
        cases found.symm.trans there
  | some saved =>
      dsimp only
      rcases loads_cases made found (Json.hasFewDigits_of_lookup short found) with
        ⟨fault, stops, failed⟩ | ⟨passes, entry, rejected, loads, loaded⟩
      · refine .inl ⟨fault, stops, ?_⟩
        rw [failed]
        rfl
      · refine .inr ⟨passes, entry, ?_⟩
        simp only [loaded, Act.ofExcept_ok_bind, Act.modify_bind,
          Config.putEntry_append distinct loads.key]
        cases rejected with
        | none => exact ⟨journal, loads, rfl⟩
        | some rejected => exact ⟨_, loads, rfl⟩

/-- Settings are loaded one by one, each in its place, until one is stopped. -/
theorem loadEntries_cases (short : Json.fieldsHaveFewDigits fields = true)
    (made : ∀ definition ∈ definitions, definition.IsDefined)
    (distinct : ((before ++ definitions).map (·.key)).Nodup)
    (connections : List Connection) (path : Option String) (files : Files) (journal : Journal) :
    (∃ fault config noted, FirstStops fields definitions fault ∧
      loadEntries (.object fields) definitions
          ⟨⟨before ++ definitions, connections, path⟩, files, journal⟩ =
        .error fault ⟨config, files, noted⟩) ∨
    Passes fields definitions ∧
      ∃ current noted, List.Forall₂ (Loads fields) definitions current ∧
        loadEntries (.object fields) definitions
            ⟨⟨before ++ definitions, connections, path⟩, files, journal⟩ =
          .ok () ⟨⟨before ++ current, connections, path⟩, files, noted⟩ := by
  -- The settings loaded so far stand before the others, so that each stays in its place.
  induction definitions generalizing before journal with
  | nil => exact .inr ⟨List.forall_mem_nil _, [], journal, .nil, rfl⟩
  | cons definition rest ih =>
      obtain ⟨firstMade, restMade⟩ := List.forall_mem_cons.mp made
      rcases loadEntries_cons firstMade distinct short connections path files journal with
        ⟨fault, stops, failed⟩ | ⟨passes, entry, noted, loads, ran⟩
      · exact .inl ⟨fault, _, _, ⟨[], definition, rest, rfl, List.forall_mem_nil _, stops⟩, failed⟩
      · have keys : ((before ++ [entry] ++ rest).map (·.key)).Nodup := by
          simpa [loads.key] using distinct
        rw [ran, List.append_cons before entry rest]
        rcases ih restMade keys noted with
          ⟨fault, config, after, ⟨earlier, other, later, rfl, others, stops⟩, failed⟩ |
          ⟨others, current, after, each, finished⟩
        · exact .inl ⟨fault, config, after, ⟨definition :: earlier, other, later, rfl,
            List.forall_mem_cons.mpr ⟨passes, others⟩, stops⟩, failed⟩
        · refine .inr ⟨List.forall_mem_cons.mpr ⟨passes, others⟩, entry :: current, after,
            .cons loads each, ?_⟩
          rw [finished, ← List.append_cons]

variable {defined : List ConfigEntry} {files : Files} {path text : String} {place : Place}

/-- What comes of taking over certain saved values: each setting takes what there is for it, or one
of them is stopped, and no file is changed. -/
def Loaded (fields : List (String × Json)) (defined : List ConfigEntry) (path : String)
    (files : Files) : EStateM.Result Fault ConfigDesk Unit → Prop
  | .ok _ desk => Passes fields defined ∧
      List.Forall₂ (Loads fields) defined desk.config.entries ∧
      desk.config.connections = [] ∧ desk.config.savedPath = some path
  | .error fault desk => FirstStops fields defined fault ∧ desk.files = files

/-- Where nothing is saved the defaults are taken, and saved. -/
theorem loaded_save (takes : files.Takes path place)
    (made : ∀ definition ∈ defined, definition.IsDefined)
    (can : Config.CanSave ⟨defined, [], some path⟩) (journal : Journal) :
    Loaded [] defined path files (save ⟨⟨defined, [], some path⟩, files, journal⟩) := by
  rw [save_of_takes ⟨⟨defined, [], some path⟩, files, journal⟩ rfl takes can]
  refine ⟨?_, List.forall₂_same.mpr fun definition member => ?_, rfl, rfl⟩
  · rintro definition - _ ⟨_, found, _⟩
    cases found
  · exact loads_default (made definition member) fun _ _ found => by cases found

theorem loaded_loadEntries (made : ∀ definition ∈ defined, definition.IsDefined)
    (distinct : (defined.map (·.key)).Nodup) (short : Json.fieldsHaveFewDigits fields = true)
    (journal : Journal) :
    Loaded fields defined path files
      (loadEntries (.object fields) defined ⟨⟨defined, [], some path⟩, files, journal⟩) := by
  have all : (([] ++ defined).map ConfigEntry.key).Nodup := distinct
  rcases loadEntries_cases short made all [] (some path) files journal with
    ⟨fault, config, noted, stops, failed⟩ | ⟨passes, current, noted, each, ran⟩
  · rw [List.nil_append] at failed
    rw [failed]
    exact ⟨stops, rfl⟩
  · rw [List.nil_append] at ran
    rw [ran]
    exact ⟨passes, each, rfl, rfl⟩

/-- A text that holds no object is replaced by the defaults, and one that goes beyond the reader is
left as it is. -/
theorem start_of_read (takes : files.Takes path place)
    (made : ∀ definition ∈ defined, definition.IsDefined) (distinct : (defined.map (·.key)).Nodup)
    (can : Config.CanSave ⟨defined, [], some path⟩) (keeps : files.contains path = true)
    (read : files.read path = .ok text) (journal : Journal) :
    (∀ limit, Json.savedIn text = .error limit →
      start ⟨⟨defined, [], some path⟩, files, journal⟩ =
        .error (.beyondReader limit) ⟨⟨defined, [], some path⟩, files, journal⟩) ∧
    ∀ fields, Json.savedIn text = .ok fields →
      Loaded fields defined path files (start ⟨⟨defined, [], some path⟩, files, journal⟩) := by
  rw [start, Act.get_bind]
  dsimp only
  rw [if_pos keeps, load, Act.get_bind, read, Act.ofExcept_ok_bind]
  unfold Json.savedIn
  cases document : Json.read text with
  | error cause =>
      cases cause with
      | malformed fault =>
          refine ⟨by rintro _ ⟨⟩, ?_⟩
          rintro _ ⟨⟩
          exact loaded_save takes made can _
      | beyond limit =>
          refine ⟨?_, by rintro _ ⟨⟩⟩
          rintro _ ⟨⟩
          rfl
  | ok value =>
      cases value with
      | object values =>
          refine ⟨by rintro _ ⟨⟩, ?_⟩
          rintro _ ⟨⟩
          exact loaded_loadEntries made distinct (Json.hasFewDigits_of_read document) journal
      | _ =>
          refine ⟨by rintro _ ⟨⟩, ?_⟩
          rintro _ ⟨⟩
          exact loaded_save takes made can _

/-- Settings are taken into use with what is saved, whatever it is, unless it goes beyond the reader
or one of them is stopped. -/
theorem start_of_savedAt (takes : files.Takes path place)
    (made : ∀ definition ∈ defined, definition.IsDefined) (distinct : (defined.map (·.key)).Nodup)
    (can : Config.CanSave ⟨defined, [], some path⟩) (journal : Journal) :
    (∀ limit, files.savedAt path = .error limit →
      start ⟨⟨defined, [], some path⟩, files, journal⟩ =
        .error (.beyondReader limit) ⟨⟨defined, [], some path⟩, files, journal⟩) ∧
    ∀ fields, files.savedAt path = .ok fields →
      Loaded fields defined path files (start ⟨⟨defined, [], some path⟩, files, journal⟩) := by
  cases keeps : files.contains path with
  | true =>
      obtain ⟨held, there⟩ := Option.isSome_iff_exists.mp (takes.contains_iff.mp keeps).2
      have read := takes.read_eq there
      rw [Files.savedAt_of_read keeps read]
      exact start_of_read takes made distinct can keeps read journal
  | false =>
      have nothing : files.savedAt path = .ok [] := by
        rw [Files.savedAt, keeps]
        rfl
      rw [nothing]
      refine ⟨by rintro _ ⟨⟩, ?_⟩
      rintro _ ⟨⟩
      rw [start, Act.get_bind]
      dsimp only
      rw [keeps]
      exact loaded_save takes made can journal

end ConfigDesk

end ScriptCatalog
