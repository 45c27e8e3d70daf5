import ScriptCatalog.Proofs.Fault
import ScriptCatalog.Proofs.Workspace.Configured
import ScriptCatalog.Proofs.Workspace.Opened

/-! The shared settings, whatever is saved and whatever is set. Each is within its bounds from when
they are opened, a change that is refused changes nothing, and a runner can always be made with the
size of history that is configured. Only a text that goes beyond the reader and a value that is too
deep to be shown keep them from being opened. -/

namespace ScriptCatalog

section

variable [Platform]

/-! Text that is nested too deep. -/

namespace Json

/-- Lists in lists, so many of them. -/
def nested (depth : Nat) : String :=
  String.ofList (List.replicate depth '[' ++ List.replicate depth ']')

theorem skipSpace_replicate (depth : Nat) (rest : List Char) :
    skipSpace (List.replicate (depth + 1) '[' ++ rest) =
      List.replicate (depth + 1) '[' ++ rest := by
  rw [List.replicate_succ, List.cons_append]
  exact skipSpace_cons rfl _

/-- More lists in lists than there is room for are not read, whatever is in them. -/
theorem readValue_replicate (room fuel : Nat) (enough : 2 * room < fuel) (rest : List Char) :
    ∃ input, readValue fuel room (List.replicate (room + 1) '[' ++ rest) =
      .error ⟨.beyond (.depth .list), input⟩ := by
  induction room generalizing fuel with
  | zero =>
      obtain ⟨fuel, rfl⟩ : ∃ less, fuel = less + 1 := ⟨fuel - 1, by omega⟩
      rw [List.replicate_succ, List.cons_append, readValue]
      exact ⟨_, rfl⟩
  | succ room ih =>
      -- One unit of fuel is for the list and one for its first item.
      obtain ⟨fuel, rfl⟩ : ∃ less, fuel = less + 2 := ⟨fuel - 2, by omega⟩
      obtain ⟨input, failed⟩ := ih fuel (by omega)
      refine ⟨input, ?_⟩
      rw [List.replicate_succ, List.cons_append, readValue]
      dsimp only
      rw [skipSpace_replicate]
      split
      next same => cases same
      next =>
        rw [readItems, failed]
        rfl

theorem savedIn_nested {depth : Nat} (deep : Platform.reading < depth) :
    savedIn (nested depth) = .error (.depth .list) := by
  obtain ⟨more, rfl⟩ := Nat.exists_eq_add_of_lt deep
  have opens : (nested (Platform.reading + more + 1)).toList =
      List.replicate (Platform.reading + 1) '[' ++
        (List.replicate more '[' ++ List.replicate (Platform.reading + more + 1) ']') := by
    rw [nested, String.toList_ofList, ← List.append_assoc, List.replicate_append_replicate,
      Nat.add_right_comm]
  have enough :
      2 * Platform.reading < 2 * (nested (Platform.reading + more + 1)).toList.length + 1 := by
    rw [opens, List.length_append, List.length_replicate]
    omega
  have unmarked :
      ((nested (Platform.reading + more + 1)).toList.head? == some '\ufeff') = false := by
    rw [opens]
    rfl
  obtain ⟨input, failed⟩ := readValue_replicate Platform.reading _ enough
    (List.replicate more '[' ++ List.replicate (Platform.reading + more + 1) ']')
  rw [← skipSpace_replicate, ← opens] at failed
  have read : Json.read (nested (Platform.reading + more + 1)) =
      .error (.beyond (.depth .list)) := by
    rw [Json.read, readDocument, unmarked, failed]
    rfl
  rw [savedIn, read]

end Json

/-! Values within bounds. -/

namespace Config

/-- The shipped settings with values that are of use. -/
structure InBounds (config : Config) : Prop where
  precision : ∃ places : Int, 1 ≤ places ∧ places ≤ 17 ∧
    config.get precisionKey = .ok (.int places)
  logCommands : ∃ value, config.get logCommandsKey = .ok (.bool value)
  maxHistory : ∃ count : Int, 1 ≤ count ∧ count ≤ 1000 ∧
    config.get maxHistoryKey = .ok (.int count)
  resetIds : ∃ value, config.get resetIdsKey = .ok (.bool value)

variable {config : Config} {key : String}

/-- What values a shipped setting can have. -/
def allows (entry : ConfigEntry) (kind : ScalarKind) (range : Option (Int × Int)) : Bool :=
  decide (entry.parameter.kind = kind) &&
    decide (entry.parameter.minimum = range.map fun limits => .int limits.1) &&
    decide (entry.parameter.maximum = range.map fun limits => .int limits.2)

theorem allows_iff {entry : ConfigEntry} {kind : ScalarKind} {range : Option (Int × Int)} :
    allows entry kind range = true ↔ entry.parameter.kind = kind ∧
      entry.parameter.minimum = (range.map fun limits => .int limits.1) ∧
      entry.parameter.maximum = (range.map fun limits => .int limits.2) := by
  rw [allows, Bool.and_eq_true, Bool.and_eq_true, decide_eq_true_eq, decide_eq_true_eq,
    decide_eq_true_eq, and_assoc]

/-- A shipped setting that can have certain values has one of them. -/
theorem exists_fitting (follows : config.Follows shippedEntries)
    (known : key ∈ shippedEntries.map (·.key)) {kind : ScalarKind} {range : Option (Int × Int)}
    (allowed : ∀ entry ∈ shippedEntries, entry.key = key → allows entry kind range = true) :
    ∃ definition value, allows definition kind range = true ∧ config.get key = .ok value ∧
      definition.parameter.fits value = true := by
  rw [← follows.keys] at known
  obtain ⟨value, given⟩ := config.get_of_mem_keys key known
  obtain ⟨entry, found, same⟩ := (Except.bind_eq_ok _ _ _).mp given
  cases same
  obtain ⟨definition, member, each⟩ := follows.mem (mem_of_entry found)
  have named : definition.key = key := each.key.symm.trans (key_of_entry found)
  exact ⟨definition, _, allowed definition member named, given, each.fits⟩

theorem exists_int (follows : config.Follows shippedEntries)
    (known : key ∈ shippedEntries.map (·.key)) {least most : Int}
    (allowed : ∀ entry ∈ shippedEntries, entry.key = key →
      allows entry .int (some (least, most)) = true) :
    ∃ number : Int, least ≤ number ∧ number ≤ most ∧ config.get key = .ok (.int number) := by
  obtain ⟨definition, value, allowed, given, fits⟩ := exists_fitting follows known allowed
  obtain ⟨kind, minimum, maximum⟩ := allows_iff.mp allowed
  rw [Parameter.fits, Parameter.outside, kind, minimum, maximum] at fits
  cases value with
  | int number =>
      simp only [Scalar.kind, Option.map_some, Option.any_some, Scalar.less, Bool.and_eq_true,
        Bool.not_eq_true', Bool.or_eq_false_iff, decide_eq_false_iff_not, not_lt] at fits
      exact ⟨number, fits.2.1, fits.2.2, given⟩
  | bool value => cases fits
  | real value => cases fits
  | text value => cases fits

theorem exists_bool (follows : config.Follows shippedEntries)
    (known : key ∈ shippedEntries.map (·.key))
    (allowed : ∀ entry ∈ shippedEntries, entry.key = key → allows entry .bool none = true) :
    ∃ value, config.get key = .ok (.bool value) := by
  obtain ⟨definition, value, allowed, given, fits⟩ := exists_fitting follows known allowed
  have kind := (ConfigEntry.kind_of_fits fits).trans (allows_iff.mp allowed).1
  cases value with
  | bool value => exact ⟨value, given⟩
  | int value => cases kind
  | real value => cases kind
  | text value => cases kind

/-- What values each of the shipped settings can have. -/
theorem allows_of_shipped : ∀ entry ∈ shippedEntries,
    (entry.key = precisionKey → allows entry .int (some (1, 17)) = true) ∧
    (entry.key = logCommandsKey → allows entry .bool none = true) ∧
    (entry.key = maxHistoryKey → allows entry .int (some (1, 1000)) = true) ∧
    (entry.key = resetIdsKey → allows entry .bool none = true) := by
  have all : shippedEntries.all (fun entry =>
      decide (entry.key = precisionKey → allows entry .int (some (1, 17)) = true) &&
      (decide (entry.key = logCommandsKey → allows entry .bool none = true) &&
      (decide (entry.key = maxHistoryKey → allows entry .int (some (1, 1000)) = true) &&
      decide (entry.key = resetIdsKey → allows entry .bool none = true)))) = true := rfl
  intro entry member
  have each := List.all_eq_true.mp all entry member
  simp only [Bool.and_eq_true, decide_eq_true_eq] at each
  exact each

theorem inBounds_of_follows (follows : config.Follows shippedEntries) : config.InBounds where
  precision := exists_int follows (by rw [keys_shippedEntries]; decide)
    fun entry member => (allows_of_shipped entry member).1
  logCommands := exists_bool follows logCommandsKey_mem
    fun entry member => (allows_of_shipped entry member).2.1
  maxHistory := exists_int follows maxHistoryKey_mem
    fun entry member => (allows_of_shipped entry member).2.2.1
  resetIds := exists_bool follows (by rw [keys_shippedEntries]; decide)
    fun entry member => (allows_of_shipped entry member).2.2.2

end Config

/-! Changes that are refused. -/

/-- A change is refused because there is no such setting, or the value is of another kind or outside
the range of the setting, or because what is wrong cannot be written out. -/
inductive Fault.RefusesChange : Fault → Prop
  | unknown (key : String) : RefusesChange (.unknownSetting (.text key))
  | kind (name : Datum) (kind : ScalarKind) (value : Datum) :
      RefusesChange (.wrongKind name kind value)
  | range (name : Datum) (value : Scalar) (minimum maximum : Option Scalar) :
      RefusesChange (.outsideRange name value minimum maximum)
  | unshown (obstacle : Obstacle) : RefusesChange obstacle.fault

theorem Fault.RefusesChange.raised {fault : Fault} (refuses : fault.RefusesChange) :
    fault.raised.RefusesChange := by
  have plain : fault.IsPlain := by
    cases refuses with
    | unshown obstacle => cases obstacle <;> exact nofun
    | _ => exact nofun
  rcases fault.raised_cases plain with ⟨_, same⟩ | ⟨_, _, obstacle, _, same⟩
  · rw [same]
    exact refuses
  · rw [same]
    exact .unshown obstacle

theorem Config.entry_refuses (config : Config) (key : String) :
    FailsOnly Fault.RefusesChange (config.entry key) := by
  unfold Config.entry
  cases config.entry? key with
  | some entry => exact failsOnly_ok entry
  | none => exact failsOnly_error (.unknown key)

theorem Parameter.validate_refuses (parameter : Parameter) (value : Datum) :
    FailsOnly Fault.RefusesChange (parameter.validate value true) := by
  unfold validate
  cases value.scalar? with
  | none =>
      dsimp only
      cases value.unshown? with
      | some obstacle => exact failsOnly_error (.unshown obstacle)
      | none => exact failsOnly_error (.kind _ _ _)
  | some scalar =>
      dsimp only
      split
      · exact failsOnly_error (.kind _ _ _)
      · split
        · exact failsOnly_error (.range _ _ _ _)
        · exact failsOnly_ok true

theorem ConfigEntry.set_refuses (entry : ConfigEntry) (value : Datum) :
    FailsOnly Fault.RefusesChange (entry.set value) := by
  refine (entry.parameter.validate_refuses value).bind fun valid checked => ?_
  cases plain : value.scalar? with
  | none =>
      simp only [Parameter.validate, plain] at checked
      cases shown : value.unshown? <;> rw [shown] at checked <;> cases checked
  | some scalar =>
      rw [Parameter.expectScalar, plain]
      exact failsOnly_ok _

namespace Workspace

variable {space : Workspace} {path : Option String} {number : Nat}

/-- A change is made and told to whoever is connected, or it is refused and nothing is changed. -/
theorem changeSetting_of_inUse (inUse : InUse Config.shippedEntries path number space)
    (keeps : space.files.CanKeep path) {listeners : Listeners} (harmless : listeners.Harmless)
    (key : String) (value : Datum) (saving : Bool) :
    (∃ after, changeSettingAmong listeners number key value saving space = .ok () after) ∨
      ∃ fault, changeSettingAmong listeners number key value saving space = .error fault space ∧
        fault.raised.RefusesChange := by
  obtain ⟨config, there, reached, serves⟩ := inUse
  have settled := reached.settled Config.nodup_shippedEntries Config.isDefined_shippedEntries
  rcases ConfigDesk.change_of_shipped settled (settled.savedPath ▸ keeps) key value saving with
    ⟨fault, failed, because⟩ | ⟨entry, changed, differs, files, found, set, next, ran⟩
  · refine .inr ⟨fault, Act.bind_of_error _ (onConfig_of_error there failed), ?_⟩
    rcases because with unknown | ⟨entry, _, rejected⟩
    · exact Fault.RefusesChange.raised (config.entry_refuses key _ unknown)
    · exact Fault.RefusesChange.raised (entry.set_refuses value _ rejected)
  · obtain ⟨count, _, given⟩ := Config.exists_maxHistory settled.follows
    obtain ⟨room, positive, _, valued, _⟩ := maxHistory_putEntry next.follows found set given
    refine .inl ?_
    rw [changeSettingAmong, Act.bind_of_ok _ (onConfig_of_ok there ran)]
    cases differs with
    | false => exact ⟨_, rfl⟩
    | true =>
        let changedSpace : Workspace := { space with
          configs := space.configs.set number (config.putEntry changed), files }
        have told : ∀ notice ∈ _, Told room changedSpace.histories.length notice :=
          told_connected serves valued
        obtain ⟨after, ranAll, _⟩ := notifyAll_told harmless positive told
        exact ⟨after, ranAll⟩

/-- A runner that takes the settings in use, asked for or shared, has a history of its own with the
size that is configured, or one that is there. -/
theorem addRunner_of_inUse (inUse : InUse Config.shippedEntries path number space)
    (shared : space.shared = some number) {choice : Option Nat}
    (chosen : choice = none ∨ choice = some number) (history : Option Nat)
    (interpret : Interpreter) (dialog : Option ArgumentDialog) :
    ∃ runner after, addRunner choice history interpret dialog space = .ok runner after := by
  obtain ⟨config, there, reached, _⟩ := inUse
  have settled := reached.settled Config.nodup_shippedEntries Config.isDefined_shippedEntries
  obtain ⟨count, positive, given⟩ := Config.exists_maxHistory settled.follows
  have same : addRunner choice history interpret dialog space =
      addRunner (some number) history interpret dialog space := by
    rcases chosen with rfl | rfl
    · have opened : sharedConfig (.text space.files.standardPath) space = .ok number space := by
        rw [sharedConfig, Act.get_bind, shared]
        rfl
      exact Act.bind_of_ok _ opened
    · rfl
  rw [same]
  have made : ∃ kept between, runnerHistory config history space = .ok kept between ∧
      between.configs[number]? = some config := by
    cases history with
    | some known => exact ⟨known, space, rfl, there⟩
    | none =>
        obtain ⟨_, _, made⟩ := runnerHistory_none space positive given
        exact ⟨_, _, made, there⟩
  obtain ⟨kept, between, made, still⟩ := made
  have connects := connect_of_get
    ⟨Config.maxHistoryKey, .runner between.runners.length, .capacity kept⟩ still given
  exact ⟨_, _, (Act.bind_of_ok _ (config_of_there there)).trans
    ((Act.bind_of_ok _ made).trans (Act.bind_of_ok _ connects))⟩

/-- The shared settings are within their bounds; whatever they are set to, the change is made or
refused with nothing changed, if no function that is told of it does harm; and a runner can be made
with them. -/
structure Bounded (number : Nat) (space : Workspace) : Prop where
  inBounds : ∃ config, space.configs[number]? = some config ∧ config.InBounds
  changes : ∀ listeners : Listeners, listeners.Harmless → ∀ key value saving,
    (∃ after, changeSettingAmong listeners number key value saving space = .ok () after) ∨
      ∃ fault, changeSettingAmong listeners number key value saving space = .error fault space ∧
        fault.raised.RefusesChange
  runners : ∀ choice history interpret dialog, choice = none ∨ choice = some number →
    ∃ runner after, addRunner choice history interpret dialog space = .ok runner after

theorem bounded_of_inUse (inUse : InUse Config.shippedEntries path number space)
    (keeps : space.files.CanKeep path) (shared : space.shared = some number) :
    Bounded number space where
  inBounds := by
    obtain ⟨config, there, reached, _⟩ := inUse
    have settled := reached.settled Config.nodup_shippedEntries Config.isDefined_shippedEntries
    exact ⟨config, there, Config.inBounds_of_follows settled.follows⟩
  changes := fun _ harmless => changeSetting_of_inUse inUse keeps harmless
  runners := fun _ history interpret dialog chosen =>
    addRunner_of_inUse inUse shared chosen history interpret dialog

open ConfigEntry

/-- No saved value is too large for a shipped setting, since none is a real number. -/
theorem shownTooDeep_of_firstStops {fields : List (String × Json)} {fault : Fault}
    (stops : FirstStops fields Config.shippedEntries fault) : fault = .shownTooDeep := by
  obtain ⟨before, definition, after, split, _, _, _, here⟩ := stops
  cases here with
  | tooDeep deep => rfl
  | tooLarge kind =>
      have member : definition ∈ Config.shippedEntries := by simp [split]
      exact absurd kind (Config.isWithin_of_shipped definition member).1

end Workspace

end

namespace Workspace

open ConfigEntry

/-- Of two values that are saved for shared settings one is too small. -/
def doubtful : List (String × Scalar) :=
  [(Config.maxHistoryKey, .int 0), (Config.logCommandsKey, .bool false)]

/-- The value that is too small is passed over and the other one is kept, and the settings are as
well when the small one is set. -/
theorem savedIn_doubtful : Json.savedIn (Json.write doubtful) = .ok (Json.ofFields doubtful) :=
  savedIn_write (by decide) (List.forall_mem_cons.mpr
    ⟨isShort_of_natAbs_lt (by decide), List.forall_mem_singleton.mpr rfl⟩)

/-- Neither of the values is too deep to be shown. -/
theorem passes_doubtful : Passes (Json.ofFields doubtful) Config.shippedEntries := by
  rintro definition member fault ⟨saved, found, stops⟩
  have plain : ∀ field ∈ Json.ofFields doubtful, (Datum.ofJson field.2).unshown? = none := by
    decide +kernel
  obtain ⟨before, after, same, _⟩ := List.lookup_eq_some_iff.mp found
  cases stops with
  | tooLarge kind => exact absurd kind (Config.isWithin_of_shipped definition member).1
  | tooDeep deep =>
      have shown := plain (definition.key, saved) (by rw [same]; simp)
      cases deep.symm.trans shown

end Workspace

end ScriptCatalog
