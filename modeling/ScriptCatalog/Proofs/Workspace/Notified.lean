import ScriptCatalog.Proofs.Config.Connected
import ScriptCatalog.Proofs.Workspace.Saving

/-! Telling of changes. Whoever is connected to a setting is told of each change of it, in the order
in which the connections began and after the change was made and saved. The first function that
fails ends that, and so does a change that cannot be saved. Whatever a function does, those that
were connected when the change was made are told of it. -/

namespace ScriptCatalog

section

variable [Platform]

/-! Telling. -/

/-- What others hear when a connection is told that records changes. -/
def Notice.event? (notice : Notice) : Option Event :=
  match notice.connection.callback with
  | .recorder takesValue => some (.settingChanged (Workspace.ownerName notice.connection.owner)
      notice.connection.key (if takesValue then some notice.value else none))
  | .capacity _ | .foreign .. => none

namespace Workspace

variable {space between start after : Workspace} {number : Nat} {listeners : Listeners}
  {notices : List Notice} {called : List (Notice × Workspace)}
  {result : EStateM.Result Fault Workspace Unit}

/-- Connections are told one after the other, each in the state that the ones before it left. Once a
function fails the rest are not told, and the failure is passed on. -/
inductive Tells (listeners : Listeners) :
    List Notice → List (Notice × Workspace) → Workspace → EStateM.Result Fault Workspace Unit → Prop
  | all {space : Workspace} : Tells listeners [] [] space (.ok () space)
  | fails {notice : Notice} {missed : List Notice} {space after : Workspace} {fault : Fault}
      (failed : notify listeners notice space = .error fault after) :
      Tells listeners (notice :: missed) [(notice, space)] space (.error fault after)
  | calls {notice : Notice} {rest : List Notice} {called : List (Notice × Workspace)}
      {space between : Workspace} {result : EStateM.Result Fault Workspace Unit}
      (ran : notify listeners notice space = .ok () between)
      (others : Tells listeners rest called between result) :
      Tells listeners (notice :: rest) ((notice, space) :: called) space result

theorem exists_tells (listeners : Listeners) (notices : List Notice) (space : Workspace) :
    ∃ called, Tells listeners notices called space (notifyAll listeners notices space) := by
  induction notices generalizing space with
  | nil => exact ⟨[], .all⟩
  | cons notice rest ih =>
      cases ran : notify listeners notice space with
      | error fault after =>
          have failed : notifyAll listeners (notice :: rest) space = .error fault after :=
            Act.bind_of_error _ ran
          rw [failed]
          exact ⟨_, .fails ran⟩
      | ok value between =>
          obtain ⟨called, tells⟩ := ih between
          have told : notifyAll listeners (notice :: rest) space =
              notifyAll listeners rest between := Act.bind_of_ok _ ran
          rw [told]
          exact ⟨_, .calls ran tells⟩

/-- Nobody is told out of turn or twice. -/
theorem Tells.isPrefix (tells : Tells listeners notices called space result) :
    called.map (·.1) <+: notices := by
  induction tells with
  | all => exact List.prefix_rfl
  | fails failed => exact List.cons_prefix_cons.mpr ⟨rfl, List.nil_prefix⟩
  | calls ran others ih => exact List.cons_prefix_cons.mpr ⟨rfl, ih⟩

/-- Where no function fails everybody is told. -/
theorem Tells.of_ok (tells : Tells listeners notices called space (.ok () after)) :
    called.map (·.1) = notices := by
  generalize ended : EStateM.Result.ok () after = result at tells
  induction tells with
  | all => rfl
  | fails failed => cases ended
  | calls ran others ih => rw [List.map_cons, ih ended]

/-- While discreet functions are called settings and files are as they were. -/
theorem Tells.around (discreet : listeners.Discreet) (same : Around start space)
    (tells : Tells listeners notices called space result) :
    ∀ call ∈ called, Around start call.2 := by
  induction tells with
  | all => exact List.forall_mem_nil _
  | fails failed => exact List.forall_mem_singleton.mpr same
  | @calls notice rest called space between result ran others ih =>
      have around := around_notify discreet notice space
      rw [Act.after_of_ok ran] at around
      exact List.forall_mem_cons.mpr ⟨same, ih (trans_of Around same around)⟩

/-- A recorder never fails, and what it records is heard. -/
theorem Tells.of_recorders (tells : Tells listeners notices called space result)
    (recorders : ∀ notice ∈ notices, ∃ takesValue,
      notice.connection.callback = .recorder takesValue) :
    (∃ after, result = .ok () after) ∧ (Act.stateOf result).journal.events =
      space.journal.events ++ notices.filterMap (·.event?) := by
  induction tells with
  | all => exact ⟨⟨_, rfl⟩, (List.append_nil _).symm⟩
  | @fails notice missed space after fault failed =>
      obtain ⟨takesValue, callback⟩ := recorders notice List.mem_cons_self
      rw [notify, callback] at failed
      cases failed
  | @calls notice rest called space between result ran others ih =>
      obtain ⟨takesValue, callback⟩ := recorders notice List.mem_cons_self
      obtain ⟨final, events⟩ :=
        ih fun notice member => recorders notice (List.mem_cons_of_mem _ member)
      have heard : notice.event? = some (.settingChanged (ownerName notice.connection.owner)
          notice.connection.key (if takesValue then some notice.value else none)) := by
        rw [Notice.event?, callback]
      rw [notify, callback] at ran
      cases ran
      refine ⟨final, events.trans ?_⟩
      rw [List.filterMap_cons, heard]
      simp [Journal.emit, Journal.events]

end Workspace

/-! Calls. -/

namespace SettingsCall

def act (listeners : Workspace.Listeners) (number : Nat) : SettingsCall → Act Workspace Unit
  | connect connection parameters _ => Workspace.connect number connection parameters
  | disconnect owner key => Workspace.disconnect number owner key
  | set key value saving => Workspace.changeSettingAmong listeners number key value saving

def run (listeners : Workspace.Listeners) (number : Nat) (calls : List SettingsCall)
    (space : Workspace) : Workspace :=
  calls.foldl (fun space call => (call.act listeners number).after space) space

theorem run_append_singleton (listeners : Workspace.Listeners) (number : Nat)
    (calls : List SettingsCall) (call : SettingsCall) (space : Workspace) :
    run listeners number (calls ++ [call]) space =
      (call.act listeners number).after (run listeners number calls space) := by
  simp [run]

/-- What is wrong with a call: the key is unknown, the function has too many parameters, or the
value is none that the setting can have. -/
def Refused (config : Config) (fault : Fault) : SettingsCall → Prop
  | connect connection parameters _ => config.entry connection.key = .error fault ∨
      1 < parameters ∧ (∃ entry, config.entry connection.key = .ok entry) ∧
        fault = .callbackParameters connection.key parameters
  | disconnect _ key => config.entry key = .error fault
  | set key value _ => config.entry key = .error fault ∨
      ∃ entry, config.entry key = .ok entry ∧ entry.set value = .error fault

end SettingsCall

namespace Workspace

variable {space start after : Workspace} {number : Nat} {config : Config} {listeners : Listeners}
  {defined : List ConfigEntry} {path : Option String} {calls : List SettingsCall}

theorem connect_eq (there : space.configs[number]? = some config) (connection : Connection)
    (parameters : Nat) :
    connect number connection parameters space =
      (Act.ofExcept (config.connect connection parameters) >>= setConfig number) space :=
  Act.bind_of_ok _ (config_of_there there)

theorem disconnect_eq (there : space.configs[number]? = some config) (owner : Owner)
    (key : String) :
    disconnect number owner key space =
      (Act.ofExcept (config.disconnect owner key) >>= setConfig number) space :=
  Act.bind_of_ok _ (config_of_there there)

theorem act_of_refused (there : space.configs[number]? = some config) {call : SettingsCall}
    {fault : Fault} (refused : call.Refused config fault) :
    call.act listeners number space = .error fault space := by
  cases call with
  | connect connection parameters fits =>
      have failed : config.connect connection parameters = .error fault := by
        rcases refused with unknown | ⟨many, ⟨entry, found⟩, rfl⟩
        · rw [Config.connect, unknown]
          rfl
        · rw [Config.connect, found]
          change (if parameters > 1 then _ else _) = _
          rw [if_pos many]
          rfl
      rw [SettingsCall.act, connect_eq there, failed]
      rfl
  | disconnect owner key =>
      have failed : config.disconnect owner key = .error fault := by
        rw [Config.disconnect, (refused : config.entry key = .error fault)]
        rfl
      rw [SettingsCall.act, disconnect_eq there, failed]
      rfl
  | set key value saving =>
      have failed : ConfigDesk.change key value saving ⟨config, space.files, space.journal⟩ =
          .error fault ⟨config, space.files, space.journal⟩ :=
        ConfigDesk.change_of_refused refused
      exact Act.bind_of_error _ (onConfig_of_error there failed)

/-- The settings with one changed, in the files that there are then. -/
def changedTo (number : Nat) (config : Config) (files : Files) (space : Workspace) : Workspace :=
  { space with configs := space.configs.set number config, files }

/-- A change of a setting as it is before anybody is told of it. -/
structure Changes (config : Config) (key : String) (value : Datum) (saving : Bool)
    (entry changed : ConfigEntry) (differs : Bool) (space : Workspace) (files : Files) : Prop where
  given : value.scalar? = some changed.value
  differs_eq : differs = !entry.value.same changed.value
  got : (config.putEntry changed).get key = .ok changed.value
  connections : (config.putEntry changed).connections = config.connections
  written : differs = true → saving = true → ∀ kept, config.savedPath = some kept →
    (config.putEntry changed).CanSave ∧
      space.files.write kept (Json.write (config.putEntry changed).savedValues) = .ok files ∧
      (files.contains kept = true → (config.putEntry changed).HeldIn files kept)
  unwritten : differs = false ∨ saving = false ∨ config.savedPath = none → files = space.files

/-- A change that need not be saved or can be is made and told. -/
theorem changeSetting_of_savable (there : space.configs[number]? = some config)
    (distinct : config.keys.Nodup) {key : String} {value : Datum}
    {entry changed : ConfigEntry} {differs : Bool} (found : config.entry key = .ok entry)
    (given : entry.set value = .ok (changed, differs)) {saving : Bool}
    (savable : differs = true → saving = true →
      ConfigDesk.Savable ⟨config.putEntry changed, space.files, space.journal⟩) :
    ∃ files, Changes config key value saving entry changed differs space files ∧
      ∀ listeners, changeSettingAmong listeners number key value saving space =
        notifyAll listeners (noticesOf differs changed.value (config.connected key))
          (changedTo number (config.putEntry changed) files space) := by
  let desk : ConfigDesk := ⟨config, space.files, space.journal⟩
  have foundThere : desk.config.entry key = .ok entry := found
  obtain ⟨files, ran, written, unwritten⟩ :=
    ConfigDesk.change_of_savable foundThere given savable
  obtain ⟨scalar, plain, _, rfl, rfl⟩ := ConfigEntry.set_eq_ok given
  have named : entry.key = key := Config.key_of_entry found
  have keys : (config.putEntry { entry with value := scalar }).keys.Nodup := by
    rw [Config.keys_putEntry]
    exact distinct
  refine ⟨files, ⟨plain, rfl, Config.get_putEntry_self found named, rfl, ?_, unwritten⟩, ?_⟩
  · intro differs saves file same
    obtain ⟨can, wrote⟩ := written differs saves file same
    exact ⟨can, wrote, Config.heldIn_of_write keys can wrote⟩
  · exact fun listeners => Act.bind_of_ok _ (onConfig_of_ok there ran)

/-- A change that is to be saved and cannot be is made, and nobody is told. -/
theorem changeSetting_of_unsavable (there : space.configs[number]? = some config)
    {key : String} {value : Datum} {entry changed : ConfigEntry}
    (found : config.entry key = .ok entry) (given : entry.set value = .ok (changed, true))
    (unsavable : ¬ConfigDesk.Savable ⟨config.putEntry changed, space.files, space.journal⟩) :
    ∃ fault files, ∀ listeners, changeSettingAmong listeners number key value true space =
      .error fault (changedTo number (config.putEntry changed) files space) := by
  let made : ConfigDesk := ⟨config.putEntry changed, space.files, space.journal⟩
  have same := (ConfigDesk.saves made).same
  cases saved : ConfigDesk.save made with
  | ok value after =>
      refine absurd (ConfigDesk.savable_iff.mpr ⟨after.files, ?_⟩) unsavable
      rw [← (ConfigDesk.save_eq_ok saved).1]
      exact saved
  | error fault after =>
      rw [saved] at same
      obtain ⟨kept, journal, _⟩ := same
      have shape : after = ⟨config.putEntry changed, after.files, space.journal⟩ := by
        obtain ⟨_, _, _⟩ := after
        cases kept
        cases journal
        rfl
      have failed : ConfigDesk.change key value true ⟨config, space.files, space.journal⟩ =
          .error fault after := ConfigDesk.change_of_unsaved found given saved
      have ran := onConfig_eq (ConfigDesk.change key value true) there
      rw [Act.on, failed, shape] at ran
      exact ⟨fault, after.files, fun listeners => Act.bind_of_error _ ran⟩

/-- Settings in use, with the connections that came of some calls. -/
def Tracked (defined : List ConfigEntry) (path : Option String) (number : Nat)
    (calls : List SettingsCall) (space : Workspace) : Prop :=
  ∃ config, space.configs[number]? = some config ∧
    ConfigDesk.Settled defined path ⟨config, space.files, space.journal⟩ ∧
    ∀ key ∈ defined.map (·.key), Reflects calls key config.connections

/-- A key that is not known is none of those that are. -/
theorem ne_of_unknown {key asked : String} {fault : Fault} (follows : config.Follows defined)
    (unknown : config.entry asked = .error fault) (member : key ∈ defined.map (·.key)) :
    asked ≠ key := by
  rintro rfl
  rw [← follows.keys] at member
  obtain ⟨value, got⟩ := config.get_of_mem_keys asked member
  rw [Config.get, unknown] at got
  cases got

theorem Tracked.around (tracked : Tracked defined path number calls space)
    (around : Around space after) : Tracked defined path number calls after := by
  obtain ⟨config, there, settled, reflects⟩ := tracked
  refine ⟨config, ?_, ⟨settled.follows, settled.savedPath, ?_⟩, reflects⟩
  · rw [around.configs]
    exact there
  · rw [around.files]
    exact settled.leads

/-- However a setting is changed, the connections are what they were. -/
theorem Tracked.change (tracked : Tracked defined path number calls space)
    (distinct : (defined.map (·.key)).Nodup) (key : String) (value : Datum) (saving : Bool) :
    Tracked defined path number calls
      ((onConfig number (ConfigDesk.change key value saving)).after space) := by
  obtain ⟨config, there, settled, reflects⟩ := tracked
  have next := settled.change distinct key value saving
  have continues := ConfigDesk.continues_change key value saving
    ⟨config, space.files, space.journal⟩
  rw [Act.after_of_eq_on (onConfig_eq _ there)]
  refine ⟨_, List.getElem?_set_self (List.getElem?_eq_some_iff.mp there).1, next, ?_⟩
  rw [continues.connections]
  exact reflects

theorem Tracked.call (discreet : listeners.Discreet)
    (tracked : Tracked defined path number calls space)
    (distinct : (defined.map (·.key)).Nodup) (call : SettingsCall) :
    Tracked defined path number (calls ++ [call]) ((call.act listeners number).after space) := by
  have before := tracked
  obtain ⟨config, there, settled, reflects⟩ := tracked
  have inside : number < space.configs.length := (List.getElem?_eq_some_iff.mp there).1
  have stays {fault : Fault} (refused : call.Refused config fault)
      (still : ∀ key ∈ defined.map (·.key), Reflects (calls ++ [call]) key config.connections) :
      Tracked defined path number (calls ++ [call]) ((call.act listeners number).after space) := by
    rw [Act.after_of_error (act_of_refused there refused)]
    exact ⟨config, there, settled, still⟩
  have replaced {connections : List Connection}
      (ran : call.act listeners number space = .ok ()
        { space with configs := space.configs.set number { config with connections } })
      (still : ∀ key ∈ defined.map (·.key), Reflects (calls ++ [call]) key connections) :
      Tracked defined path number (calls ++ [call]) ((call.act listeners number).after space) := by
    rw [Act.after_of_ok ran]
    exact ⟨_, List.getElem?_set_self inside,
      ⟨settled.follows, settled.savedPath, settled.leads⟩, still⟩
  cases call with
  | connect connection parameters fits =>
      cases found : config.entry connection.key with
      | error fault =>
          refine stays (.inl found) fun key member => ?_
          exact (reflects key member).refused_connect
            (.inl (ne_of_unknown settled.follows found member))
      | ok entry =>
          by_cases few : parameters ≤ 1
          · refine replaced ?_ fun key member => (reflects key member).connect few
            have made : config.connect connection parameters = .ok { config with
                connections := Config.putConnection connection config.connections } := by
              rw [Config.connect, found]
              change (if parameters > 1 then _ else _) = _
              rw [if_neg (by omega)]
              rfl
            rw [SettingsCall.act, connect_eq there, made]
            rfl
          · refine stays (.inr ⟨by omega, ⟨entry, found⟩, rfl⟩) fun key member => ?_
            exact (reflects key member).refused_connect (.inr (by omega))
  | disconnect owner asked =>
      cases found : config.entry asked with
      | error fault =>
          refine stays found fun key member => ?_
          exact (reflects key member).refused_disconnect
            (ne_of_unknown settled.follows found member) owner
      | ok entry =>
          refine replaced ?_ fun key member => (reflects key member).disconnect owner asked
          have made : config.disconnect owner asked = .ok { config with
              connections := config.connections.filter fun other =>
                !(other.key == asked && other.owner == owner) } := by
            rw [Config.disconnect, found]
            rfl
          rw [SettingsCall.act, disconnect_eq there, made]
          rfl
  | set key value saving =>
      have after : Tracked defined path number calls
          ((changeSettingAmong listeners number key value saving).after space) := by
        have changed := before.change distinct key value saving
        rw [Act.after, changeSettingAmong]
        cases ran : onConfig number (ConfigDesk.change key value saving) space with
        | error fault between =>
            rw [Act.bind_of_error _ ran]
            rw [Act.after_of_error ran] at changed
            exact changed
        | ok notices between =>
            rw [Act.bind_of_ok _ ran]
            rw [Act.after_of_ok ran] at changed
            exact changed.around (around_notifyAll discreet notices between)
      obtain ⟨held, now, stands, reflectsStill⟩ := after
      exact ⟨held, now, stands, fun other member =>
        (reflectsStill other member).set key value saving⟩

theorem Tracked.run (discreet : listeners.Discreet)
    (tracked : Tracked defined path number [] start) (distinct : (defined.map (·.key)).Nodup)
    (calls : List SettingsCall) :
    Tracked defined path number calls (SettingsCall.run listeners number calls start) := by
  induction calls using List.reverseRecOn with
  | nil => exact tracked
  | append_singleton calls call ih =>
      rw [SettingsCall.run_append_singleton]
      exact ih.call discreet distinct call

/-! From the beginning. -/

/-- Settings that were just opened, by definitions of their own or to be shared. They are kept in a
file or nowhere. -/
inductive Opened (number : Nat) (space after : Workspace) : Prop
  | defined (definitions path : Datum)
      (opened : openConfig definitions path space = .ok number after)
  | shared (path : Datum) (fresh : space.shared = none)
      (opened : sharedConfig path space = .ok number after)

theorem Opens.anywhere {path : String} (opens : Opens path number space after) :
    Opened number space after := by
  cases opens with
  | defined definitions opened => exact .defined (.text definitions) (.text path) opened
  | shared fresh opened => exact .shared (.text path) fresh opened

theorem tracked_of_startConfig (distinct : (defined.map (·.key)).Nodup)
    (each : ∀ entry ∈ defined, entry.IsDefined)
    (started : startConfig ⟨defined, [], path⟩ space = .ok number after) :
    Tracked defined path number [] after := by
  obtain ⟨desk, ran, rfl, rfl⟩ := startConfig_eq_ok started
  have continues := ConfigDesk.continues_start
    ⟨⟨defined, [], path⟩, space.files, space.journal⟩
  rw [Act.after_of_ok ran] at continues
  refine ⟨desk.config, List.getElem?_concat_length,
    ConfigDesk.settled_of_start distinct each ran, fun key _ => ?_⟩
  rw [continues.connections]
  exact reflects_nil key

theorem Opened.tracked (opened : Opened number space after) :
    ∃ defined path, (defined.map ConfigEntry.key).Nodup ∧
      Tracked defined path number [] after := by
  cases opened with
  | defined definitions path opened =>
      obtain ⟨defined, file, distinct, each, _, started⟩ := started_of_openConfig opened
      exact ⟨defined, file, distinct, tracked_of_startConfig distinct each started⟩
  | shared path fresh opened =>
      obtain ⟨file, between, _, started, rfl⟩ := started_of_sharedConfig fresh opened
      have tracked : Tracked Config.shippedEntries file number [] between :=
        tracked_of_startConfig Config.nodup_shippedEntries Config.isDefined_shippedEntries started
      exact ⟨_, file, Config.nodup_shippedEntries, tracked⟩

/-- How a change is told of: to the connections that there were to the key when it was made, each
with the function of its bond and in the order in which the bonds began, if the new value differs
from the old one. Each is called once, and all are if none fails; if all are discreet, each is
called with settings and files as they were when the change was made. -/
structure TellsOf (listeners : Listeners) (calls : List SettingsCall) (key : String)
    (changed : ConfigEntry) (differs : Bool) (changing : Workspace)
    (result : EStateM.Result Fault Workspace Unit) (connected : List Connection)
    (called : List (Notice × Workspace)) : Prop where
  lists : Lists calls key connected
  tells : Tells listeners (noticesOf differs changed.value connected) called changing result
  inOrder : called.map (·.1) <+: noticesOf differs changed.value connected
  everyone : ∀ after, result = .ok () after →
    called.map (·.1) = noticesOf differs changed.value connected
  meanwhile : listeners.Discreet → ∀ call ∈ called, Around changing call.2
  recorded : (∀ connection ∈ connected, ∃ takesValue, connection.callback = .recorder takesValue) →
    (∃ after, result = .ok () after) ∧ (Act.stateOf result).journal.events =
      changing.journal.events ++
        (noticesOf differs changed.value connected).filterMap (·.event?)

theorem exists_tellsOf (listeners : Listeners) {key : String} {changed : ConfigEntry}
    (differs : Bool) {connected : List Connection} (lists : Lists calls key connected)
    (changing : Workspace) :
    ∃ called, TellsOf listeners calls key changed differs changing
      (notifyAll listeners (noticesOf differs changed.value connected) changing) connected
      called := by
  obtain ⟨called, tells⟩ :=
    exists_tells listeners (noticesOf differs changed.value connected) changing
  refine ⟨called, lists, tells, tells.isPrefix, fun after ended => ?_,
    fun discreet => tells.around discreet (refl_of Around changing), fun recorders => ?_⟩
  · rw [ended] at tells
    exact tells.of_ok
  · refine tells.of_recorders fun notice member => ?_
    cases differs with
    | false => cases member
    | true =>
        obtain ⟨connection, there, rfl⟩ := List.mem_map.mp member
        exact recorders connection there

/-- After any calls, told to functions that are discreet, a call that is refused changes nothing. A
value that can be set is set, and saved where that is asked for and there is something to be saved.
If that cannot be done, nobody is told; otherwise whoever is connected to the key is told of it if
it differs from the value before, in the order in which the connections began, up to the first whose
function fails, whatever these functions do. -/
theorem changes_told_in_order {now : Workspace} (discreet : listeners.Discreet)
    (opened : Opened number space start) (calls : List SettingsCall)
    (ran : SettingsCall.run listeners number calls start = now) :
    ∃ config, now.configs[number]? = some config ∧
      (∀ (functions : Listeners) (call : SettingsCall) fault, call.Refused config fault →
        call.act functions number now = .error fault now) ∧
      ∀ key value saving entry changed differs, config.entry key = .ok entry →
        entry.set value = .ok (changed, differs) →
        (differs = true → saving = true →
          ¬ConfigDesk.Savable ⟨config.putEntry changed, now.files, now.journal⟩ →
          ∃ fault files, ∀ functions,
            changeSettingAmong functions number key value saving now =
              .error fault (changedTo number (config.putEntry changed) files now)) ∧
        ((differs = true → saving = true →
          ConfigDesk.Savable ⟨config.putEntry changed, now.files, now.journal⟩) →
          ∃ files, Changes config key value saving entry changed differs now files ∧
            ∀ functions, ∃ connected called,
              TellsOf functions calls key changed differs
                (changedTo number (config.putEntry changed) files now)
                (changeSettingAmong functions number key value saving now) connected called) := by
  obtain ⟨defined, path, distinct, first⟩ := opened.tracked
  obtain ⟨config, there, settled, reflects⟩ := first.run discreet distinct calls
  rw [ran] at there settled
  refine ⟨config, there, fun functions call fault refused => act_of_refused there refused, ?_⟩
  intro key value saving entry changed differs found given
  have keys : config.keys.Nodup := settled.follows.keys ▸ distinct
  refine ⟨?_, fun savable => ?_⟩
  · rintro rfl rfl unsavable
    exact changeSetting_of_unsavable there found given unsavable
  · obtain ⟨files, changes, told⟩ := changeSetting_of_savable there keys found given savable
    have known : key ∈ defined.map (·.key) := by
      rw [← settled.follows.keys, ← Config.key_of_entry found]
      exact List.mem_map_of_mem (Config.mem_of_entry found)
    refine ⟨files, changes, fun functions => ⟨config.connected key, ?_⟩⟩
    rw [told functions]
    exact exists_tellsOf functions differs (reflects key known).lists _

end Workspace

end

namespace Workspace

/-- Three connect to the number `n`. The first one then wants no value any more, and the second one
goes and comes back. -/
def visitors : List SettingsCall :=
  [.connect ⟨"n", .named "a", .recorder true⟩ 1 fun _ => rfl,
    .connect ⟨"n", .named "b", .recorder true⟩ 1 fun _ => rfl,
    .connect ⟨"n", .named "a", .recorder false⟩ 0 fun _ => rfl,
    .connect ⟨"n", .named "c", .recorder false⟩ 0 fun _ => rfl,
    .disconnect (.named "b") "n",
    .connect ⟨"n", .named "b", .recorder true⟩ 1 fun _ => rfl]

theorem run_visitors : SettingsCall.run silent 0 visitors (gauging .zero 0) =
    { gauging .zero 0 with
      configs := [{ (measuring "s" .zero 0).config with connections := [
        ⟨"n", .named "a", .recorder false⟩, ⟨"n", .named "c", .recorder false⟩,
        ⟨"n", .named "b", .recorder true⟩] }] } := rfl

theorem opened_gauging : Opened 0 { empty with files := devices } (gauging .zero 0) :=
  opens_gauging.anywhere

theorem visitors_told_in_order :
    Opened 0 { empty with files := devices } (gauging .zero 0) ∧
      ∃ now config entry changed files connected called,
        SettingsCall.run silent 0 visitors (gauging .zero 0) = now ∧
        now.configs[0]? = some config ∧ config.entry "n" = .ok entry ∧
        entry.set (.int 5) = .ok (changed, true) ∧
        Changes config "n" (.int 5) false entry changed true now files ∧
        TellsOf silent visitors "n" changed true
          (changedTo 0 (config.putEntry changed) files now)
          (changeSetting 0 "n" (.int 5) false now) connected called ∧
        ((changeSetting 0 "n" (.int 5) false).after now).journal.events =
          [.settingChanged "a" "n" none, .settingChanged "c" "n" none,
            .settingChanged "b" "n" (some (.int 5))] := by
  refine ⟨opened_gauging, ?_⟩
  obtain ⟨config, there, _, told⟩ := changes_told_in_order Listeners.harmless_silent.discreet
    opened_gauging visitors run_visitors
  cases there
  obtain ⟨files, changes, tells⟩ := (told "n" (.int 5) false _ _ _ rfl rfl).2 nofun
  obtain ⟨connected, called, tells⟩ := tells silent
  exact ⟨_, _, _, _, files, connected, called, run_visitors, rfl, rfl, rfl, changes, tells, rfl⟩

/-- Between two that want the value of `n` there is a history that takes it for its room. -/
def neighbours : List SettingsCall :=
  [.connect ⟨"n", .named "a", .recorder true⟩ 1 fun _ => rfl,
    .connect ⟨"n", .runner 0, .capacity 0⟩ 1 fun _ => rfl,
    .connect ⟨"n", .named "b", .recorder true⟩ 1 fun _ => rfl]

/-- The settings with the three connected, and a value of `n`. -/
def crowded (n : Int) : Config :=
  { (measuring "s" .zero n).config with connections := [⟨"n", .named "a", .recorder true⟩,
    ⟨"n", .runner 0, .capacity 0⟩, ⟨"n", .named "b", .recorder true⟩] }

/-- The settings in use, with a history. -/
def recalling : Workspace :=
  { gauging .zero 0 with histories := [⟨[], .int History.standardCapacity, rfl⟩] }

theorem opened_recalling :
    Opened 0 { empty with files := devices, histories := recalling.histories } recalling :=
  .defined (.text "d") (.text "s") (openConfig_of_start _
    (readDefinitions_devices takes_d.toLeads rfl) ofDefinitions_definedJson start_measuring)

/-- Where the history finds no room nobody is told after it, and what is never saved is not in the
file when it is told of. -/
theorem told_in_part :
    ∃ after, changeSetting 0 "n" (.int (-1)) true (SettingsCall.run silent 0 neighbours recalling) =
        .error .sizeNotPositive after ∧
      after.journal.events = [.settingChanged "a" "n" (some (.int (-1)))] ∧
      ∀ text saved, after.files.read "s" = .ok text → Json.read text = .ok saved →
        saved.field? "n" = none := by
  have went : SettingsCall.run silent 0 neighbours recalling =
      { recalling with configs := [crowded 0] } := rfl
  have there : { recalling with configs := [crowded 0] }.configs[0]? = some (crowded 0) := rfl
  have found : (⟨crowded 0, devices, []⟩ : ConfigDesk).config.entry "n" =
      .ok ((measured .zero 0).getLast (List.cons_ne_nil _ _)) := rfl
  have given : ((measured .zero 0).getLast (List.cons_ne_nil _ _)).set (.int (-1)) =
      .ok ((measured .zero (-1)).getLast (List.cons_ne_nil _ _), true) := rfl
  have can := canSave_measured .zero (-1) (crowded (-1)).connections (some "s")
  have saved := ConfigDesk.save_of_takes ⟨crowded (-1), devices, []⟩ rfl takes_s can
  have changed : ConfigDesk.change "n" (.int (-1)) true ⟨crowded 0, devices, []⟩ = .ok _ _ :=
    ConfigDesk.change_of_set found given saved
  rw [went, changeSetting, changeSettingAmong, Act.bind_of_ok _ (onConfig_of_ok there changed)]
  refine ⟨_, rfl, rfl, fun text document read opens => ?_⟩
  obtain ⟨_, wrote⟩ := (ConfigDesk.save_eq_ok saved).2.1 "s" rfl
  have again := Files.read_of_write wrote (takes_s.contains_put (by decide))
    (Json.return_not_mem_write _)
  cases again.symm.trans read
  have distinct : (keysOf [("x", Scalar.real .zero)]).Nodup := by decide
  cases (Json.read_write distinct can).symm.trans opens
  rfl

/-- A function that replaces one value by another before the next function is called. -/
def meddling : Listeners := fun _ value =>
  if value = some (.int 5) then changeSetting 0 "n" (.int 6) false else pure ()

def meddled : List SettingsCall :=
  [.connect ⟨"n", .named "a", .foreign 0 true⟩ 1 fun _ => rfl,
    .connect ⟨"n", .named "b", .recorder true⟩ 1 fun _ => rfl]

/-- The files of the settings, of which those of the saved values cannot be written. -/
def sealedDevices : Files := { devices with locked := [["dev", "s"]] }

/-- The settings in use with a recorder of the number that is saved. -/
def sealedGauging : Workspace :=
  { empty with files := sealedDevices, configs := [(measuring "s" .zero 0).config] }

theorem leads_sealedDevices : sealedDevices.Leads "s" ["dev", "s"] :=
  Files.leads_of_isSingleName (by decide) rfl rfl

theorem opened_sealedGauging :
    Opened 0 { empty with files := sealedDevices } sealedGauging := by
  have leads : sealedDevices.Leads "d" ["dev", "d"] :=
    Files.leads_of_isSingleName (by decide) rfl rfl
  have started : ConfigDesk.start ⟨⟨measured .zero 0, [], some "s"⟩, sealedDevices, []⟩ =
      .ok () ⟨⟨measured .zero 0, [], some "s"⟩, sealedDevices, []⟩ :=
    ConfigDesk.start_of_no_values rfl leads_sealedDevices (by decide) rfl
  exact .defined (.text "d") (.text "s") (openConfig_of_start { empty with files := sealedDevices }
    (readDefinitions_devices leads rfl) ofDefinitions_definedJson started)

def watching : List SettingsCall :=
  [.connect ⟨"x", .named "a", .recorder true⟩ 1 fun _ => rfl]

/-- Where a value cannot be saved it is changed and nobody is told. -/
theorem told_to_nobody :
    ∃ after config, changeSetting 0 "x" (.real .one) true
        (SettingsCall.run silent 0 watching sealedGauging) = .error (.notAllowed "s") after ∧
      after.journal.events = [] ∧ after.configs[0]? = some config ∧
      config.get "x" = .ok (.real .one) := by
  have refused (text : String) : sealedDevices.write "s" text = .error (.notAllowed "s") :=
    leads_sealedDevices.write_of_locked rfl
  let watched (x : Binary64) : Config :=
    ⟨measured x 0, [⟨"x", .named "a", .recorder true⟩], some "s"⟩
  have there : (SettingsCall.run silent 0 watching sealedGauging).configs[0]? =
      some (watched .zero) := rfl
  have found : (⟨watched .zero, sealedDevices, []⟩ : ConfigDesk).config.entry "x" =
      .ok ((measured .zero 0).head (List.cons_ne_nil _ _)) := rfl
  have differs : (!Binary64.zero.same .one) = true := by decide +kernel
  have given : ((measured .zero 0).head (List.cons_ne_nil _ _)).set (.real .one) =
      .ok ((measured .one 0).head (List.cons_ne_nil _ _), !Binary64.zero.same .one) := rfl
  rw [differs] at given
  have failed : ConfigDesk.change "x" (.real .one) true ⟨watched .zero, sealedDevices, []⟩ =
      .error (.notAllowed "s") ⟨watched .one, sealedDevices, []⟩ :=
    ConfigDesk.change_of_unsaved found given (ConfigDesk.save_of_refused rfl refused)
  have ran := onConfig_eq (ConfigDesk.change "x" (.real .one) true) there
  have same : ((SettingsCall.run silent 0 watching sealedGauging).files,
      (SettingsCall.run silent 0 watching sealedGauging).journal) = (sealedDevices, []) := rfl
  obtain ⟨files, journal⟩ := Prod.mk.inj same
  rw [Act.on, files, journal, failed] at ran
  exact ⟨_, _, Act.bind_of_error _ ran, rfl, rfl, rfl⟩

/-- Not everybody is told where a function fails, or where a change cannot be saved; what is never
saved is in no file when it is told of; and a function that sets the value anew has the next one
told of both values, of the newer one first. -/
theorem change_told_in_part_unsaved :
    (Opened 0 { empty with files := devices, histories := recalling.histories } recalling ∧
      SettingsCall.bond "n" neighbours (.named "b") = some ⟨2, .recorder true⟩ ∧
      ∃ after, changeSetting 0 "n" (.int (-1)) true
          (SettingsCall.run silent 0 neighbours recalling) = .error .sizeNotPositive after ∧
        after.journal.events = [.settingChanged "a" "n" (some (.int (-1)))] ∧
        ∀ text saved, after.files.read "s" = .ok text → Json.read text = .ok saved →
          saved.field? "n" = none) ∧
    (Opened 0 { empty with files := sealedDevices } sealedGauging ∧
      SettingsCall.bond "x" watching (.named "a") = some ⟨0, .recorder true⟩ ∧
      ∃ after config, changeSetting 0 "x" (.real .one) true
          (SettingsCall.run silent 0 watching sealedGauging) = .error (.notAllowed "s") after ∧
        after.journal.events = [] ∧ after.configs[0]? = some config ∧
        config.get "x" = .ok (.real .one)) ∧
    Opened 0 { empty with files := devices } (gauging .zero 0) ∧
      SettingsCall.bond "n" meddled (.named "b") = some ⟨1, .recorder true⟩ ∧
      ∃ after config, changeSettingAmong meddling 0 "n" (.int 5) false
          (SettingsCall.run meddling 0 meddled (gauging .zero 0)) = .ok () after ∧
        after.journal.events = [.settingChanged "b" "n" (some (.int 6)),
          .settingChanged "b" "n" (some (.int 5))] ∧
        after.configs[0]? = some config ∧ config.get "n" = .ok (.int 6) :=
  ⟨⟨opened_recalling, rfl, told_in_part⟩, ⟨opened_sealedGauging, rfl, told_to_nobody⟩,
    opened_gauging, rfl, _, _, rfl, rfl, rfl, rfl⟩

end Workspace

end ScriptCatalog
