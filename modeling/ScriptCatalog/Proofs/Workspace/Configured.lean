import ScriptCatalog.Proofs.Workspace.Reopened

/-! Settings in use, among everything else. Whoever connects to settings or takes them for a runner
leaves their values and their files alone, and so do functions that are told of a change if they are
discreet. No connection of a runner comes to ask more of a change than can be told. -/

namespace ScriptCatalog

variable [Platform]

theorem Connection.Serves.mono {connection : Connection} {few many : Nat}
    (serves : connection.Serves few) (more : few ≤ many) : connection.Serves many :=
  fun history callback => (serves history callback).imp_right fun inside => inside.trans_le more

/-- Settings are not kept anywhere before it is said where. -/
theorem Config.ofDefinitions_eq_ok {definitions : Json} {config : Config}
    (made : ofDefinitions definitions = .ok config) : ∃ defined, config = ⟨defined, [], none⟩ := by
  obtain ⟨_, _, made⟩ := (Except.bind_eq_ok _ _ _).mp made
  cases definitions with
  | object fields =>
      obtain ⟨defined, _, same⟩ := (Except.bind_eq_ok _ _ _).mp made
      cases same
      exact ⟨defined, rfl⟩
  | _ =>
      cases made
      exact ⟨[], rfl⟩

namespace Config

variable {config changed : Config}

theorem connect_eq_ok {connection : Connection} {parameters : Nat}
    (made : config.connect connection parameters = .ok changed) :
    changed = { config with connections := putConnection connection config.connections } := by
  obtain ⟨entry, _, made⟩ := (Except.bind_eq_ok _ _ _).mp made
  obtain ⟨_, made⟩ := Except.unless_eq_ok.mp made
  cases made
  rfl

theorem disconnect_eq_ok {owner : Owner} {key : String}
    (made : config.disconnect owner key = .ok changed) :
    changed = { config with connections := config.connections.filter fun other =>
      !(other.key == key && other.owner == owner) } := by
  obtain ⟨entry, _, made⟩ := (Except.bind_eq_ok _ _ _).mp made
  cases made
  rfl

end Config

namespace Workspace

variable {α : Type} {space after : Workspace} {defined : List ConfigEntry} {path : Option String}
  {number : Nat}

/-! What leaves settings as they are. -/

theorem around_addHistory (history : History) : (addHistory history).Moves Around := by
  intro space
  refine ⟨rfl, rfl, rfl, ?_⟩
  change space.histories.length ≤ (space.histories ++ [history]).length
  rw [List.length_append]
  omega

theorem around_runnerHistory (config : Config) (history : Option Nat) :
    (runnerHistory config history).Moves Around := by
  cases history with
  | some known => exact (Act.reads_pure known).moves
  | none =>
      refine (Act.reads_ofExcept _).moves.bind fun capacity => ?_
      exact (Act.reads_ofExcept _).moves.bind fun made => around_addHistory made

/-- The history of a new runner is there. -/
theorem lt_of_runnerHistory {config : Config} {history : Option Nat} {chosen : Nat}
    (there : ∀ known ∈ history, known < space.histories.length)
    (ran : runnerHistory config history space = .ok chosen after) :
    chosen < after.histories.length := by
  cases history with
  | some known =>
      cases ran
      exact there _ rfl
  | none =>
      obtain ⟨capacity, _, ran⟩ := (Act.bind_ofExcept_eq_ok _ _ _ _ _).mp ran
      obtain ⟨made, _, ran⟩ := (Act.bind_ofExcept_eq_ok _ _ _ _ _).mp ran
      cases ran
      change space.histories.length < (space.histories ++ [made]).length
      rw [List.length_append]
      exact Nat.lt_succ_self _

/-! Settings in use. -/

/-- Settings that were defined so and taken into use, with connections that no change makes fail. -/
def InUse (defined : List ConfigEntry) (path : Option String) (number : Nat)
    (space : Workspace) : Prop :=
  ∃ config, space.configs[number]? = some config ∧
    ConfigDesk.Reached defined path ⟨config, space.files, space.journal⟩ ∧
    ∀ connection ∈ config.connections, connection.Serves space.histories.length

/-- Settings in use stay in use, and the same ones are shared. Where files could be written they
still can be. -/
structure KeepsInUse (defined : List ConfigEntry) (path : Option String) (number : Nat)
    (space after : Workspace) : Prop where
  shared : after.shared = space.shared
  keeps : ∀ file, space.files.CanKeep file → after.files.CanKeep file
  inUse : InUse defined path number space → InUse defined path number after

instance : IsPreorder Workspace (KeepsInUse defined path number) where
  refl _ := ⟨rfl, fun _ => id, id⟩
  trans _ _ _ left right := ⟨right.shared.trans left.shared,
    fun file => right.keeps file ∘ left.keeps file, right.inUse ∘ left.inUse⟩

theorem Around.keepsInUse (around : Around space after) :
    KeepsInUse defined path number space after := by
  refine ⟨around.shared, fun _ keeps => around.files.symm ▸ keeps, ?_⟩
  rintro ⟨config, there, reached, serves⟩
  refine ⟨config, ?_, ?_, fun connection member => ?_⟩
  · rw [around.configs]
    exact there
  · rw [around.files]
    exact reached.noted after.journal
  · exact (serves connection member).mono around.histories

theorem Around.moves_keepsInUse {act : Act Workspace α} (around : act.Moves Around) :
    act.Moves (KeepsInUse defined path number) := fun space => (around space).keepsInUse

theorem keepsInUse_changeSetting {listeners : Listeners} (discreet : listeners.Discreet)
    (key : String) (value : Datum) (saving : Bool) :
    (changeSettingAmong listeners number key value saving).Moves
      (KeepsInUse defined path number) := by
  have changes : (onConfig number (ConfigDesk.change key value saving)).Moves
      (KeepsInUse defined path number) := by
    intro space
    cases there : space.configs[number]? with
    | none =>
        rw [Act.after_of_error (onConfig_absent _ there)]
        exact refl_of (KeepsInUse defined path number) space
    | some config =>
        rw [Act.after_of_eq_on (onConfig_eq _ there)]
        have continues := ConfigDesk.continues_change key value saving
          ⟨config, space.files, space.journal⟩
        refine ⟨rfl, fun _ => continues.canKeep, ?_⟩
        rintro ⟨_, again, reached, serves⟩
        cases there.symm.trans again
        refine ⟨_, List.getElem?_set_self (List.getElem?_eq_some_iff.mp there).1,
          reached.changed key value saving, fun connection member => ?_⟩
        exact serves connection (continues.connections ▸ member)
  exact changes.bind fun notices => Around.moves_keepsInUse (around_notifyAll discreet notices)

/-- Settings are replaced by what is made of them, or left as they are. -/
theorem keepsInUse_replace {change : Config → Except Fault Config}
    (reaches : ∀ config changed files journal, change config = .ok changed →
      ConfigDesk.Reached defined path ⟨config, files, journal⟩ →
      ConfigDesk.Reached defined path ⟨changed, files, journal⟩)
    (connects : ∀ config changed, change config = .ok changed →
      ∀ connection ∈ changed.connections, connection ∈ config.connections ∨
        connection.Serves space.histories.length) :
    KeepsInUse defined path number space (Act.after (do
      let config ← config number
      setConfig number (← Act.ofExcept (change config))) space) := by
  refine (reads_config number).moved_bind fun config found => ?_
  have there : space.configs[number]? = some config := find_eq_ok found
  cases made : change config with
  | error fault => exact refl_of (KeepsInUse defined path number) space
  | ok changed =>
      refine ⟨rfl, fun _ => id, ?_⟩
      rintro ⟨_, again, reached, serves⟩
      cases there.symm.trans again
      refine ⟨changed, List.getElem?_set_self (List.getElem?_eq_some_iff.mp there).1,
        reaches config changed _ _ made reached, fun connection member => ?_⟩
      exact (connects config changed made connection member).elim (serves connection) id

theorem keepsInUse_resetConfig : (resetConfig number).Moves (KeepsInUse defined path number) := by
  intro space
  have made : resetConfig number = (do
      let config ← config number
      setConfig number (← Act.ofExcept (.ok config.restoreDefaults))) := rfl
  rw [made]
  refine keepsInUse_replace ?_ ?_
  · rintro config _ files journal ⟨⟩ reached
    exact reached.restored
  · rintro config _ ⟨⟩ connection member
    exact .inl member

theorem keepsInUse_connect (connection : Connection) (parameters : Nat)
    (serves : connection.Serves space.histories.length) :
    KeepsInUse defined path number space
      (Act.after (connect number connection parameters) space) := by
  refine keepsInUse_replace (fun config changed files journal made reached => ?_) ?_
  · rw [Config.connect_eq_ok made]
    exact reached.connected _
  · intro config changed made other member
    rw [Config.connect_eq_ok made] at member
    rcases eq_or_mem_of_mem_putConnection member with rfl | before
    · exact .inr serves
    · exact .inl before

theorem keepsInUse_disconnect (owner : Owner) (key : String) :
    (disconnect number owner key).Moves (KeepsInUse defined path number) := by
  intro space
  refine keepsInUse_replace (fun config changed files journal made reached => ?_) ?_
  · rw [Config.disconnect_eq_ok made]
    exact reached.connected _
  · intro config changed made other member
    rw [Config.disconnect_eq_ok made] at member
    exact .inl (List.mem_of_mem_filter member)

/-- A runner takes settings, with a history of its own or one that is there. -/
theorem keepsInUse_addRunner {history : Option Nat} (interpret : Interpreter)
    (dialog : Option ArgumentDialog) (there : ∀ known ∈ history, known < space.histories.length) :
    KeepsInUse defined path number space
      (Act.after (addRunner (some number) history interpret dialog) space) := by
  refine (reads_config number).moved_bind fun config _ => ?_
  refine Act.moved_bind (around_runnerHistory config history space).keepsInUse
    fun chosen between ran => ?_
  refine Act.reads_get.moved_bind fun held got => ?_
  cases got
  have serves : Connection.Serves between.histories.length
      ⟨Config.maxHistoryKey, .runner between.runners.length, .capacity chosen⟩ := by
    rintro _ ⟨⟩
    exact ⟨rfl, lt_of_runnerHistory there ran⟩
  refine Act.moved_bind (keepsInUse_connect _ 1 serves) fun _ after _ => ?_
  exact Around.keepsInUse ⟨rfl, rfl, rfl, le_rfl⟩

/-! Whatever is done with settings in use. -/

/-- What is done with settings in use: they are set and reset, others connect to them with functions
that are discreet, runners keep to them. Meanwhile anything else can change and any file can be
written. -/
inductive SettingsTurn (number : Nat) (space : Workspace) : Workspace → Prop
  | set {listeners : Listeners} (discreet : listeners.Discreet) (key : String) (value : Datum)
      (saving : Bool) :
      SettingsTurn number space
        (Act.after (changeSettingAmong listeners number key value saving) space)
  | reset : SettingsTurn number space (Act.after (resetConfig number) space)
  | connect (connection : Connection) (parameters : Nat)
      (others : ∀ history, connection.callback ≠ .capacity history) :
      SettingsTurn number space (Act.after (connect number connection parameters) space)
  | disconnect (owner : Owner) (key : String) :
      SettingsTurn number space (Act.after (disconnect number owner key) space)
  | addRunner (history : Option Nat) (interpret : Interpreter) (dialog : Option ArgumentDialog)
      (there : ∀ known ∈ history, known < space.histories.length) :
      SettingsTurn number space
        (Act.after (addRunner (some number) history interpret dialog) space)
  | putFile (file text : String) : SettingsTurn number space (Act.after (putFile file text) space)
  | meanwhile (after : Workspace) (same : after.configs[number]? = space.configs[number]?)
      (files : after.files = space.files) (shared : after.shared = space.shared)
      (histories : space.histories.length ≤ after.histories.length) :
      SettingsTurn number space after

theorem SettingsTurn.keepsInUse (turn : SettingsTurn number space after) :
    KeepsInUse defined path number space after := by
  cases turn with
  | set discreet key value saving => exact keepsInUse_changeSetting discreet key value saving space
  | reset => exact keepsInUse_resetConfig space
  | connect connection parameters others =>
      exact keepsInUse_connect _ parameters fun history callback => absurd callback (others history)
  | disconnect owner key => exact keepsInUse_disconnect owner key space
  | addRunner history interpret dialog there => exact keepsInUse_addRunner interpret dialog there
  | putFile file text =>
      refine Act.reads_get.moved_bind fun held got => ?_
      cases got
      cases written : space.files.write file text with
      | error fault => exact refl_of (KeepsInUse defined path number) space
      | ok files =>
          obtain ⟨_, _, rfl⟩ := Files.write_eq_ok_iff.mp written
          refine ⟨rfl, fun _ keeps kept same => (keeps kept same).imp fun _ => Files.Takes.put, ?_⟩
          rintro ⟨config, there, reached, serves⟩
          exact ⟨config, there, reached.wrote written, serves⟩
  | meanwhile _ same files shared histories =>
      refine ⟨shared, fun _ keeps => files.symm ▸ keeps, ?_⟩
      rintro ⟨config, there, reached, serves⟩
      refine ⟨config, same.trans there, ?_, fun connection member => ?_⟩
      · rw [files]
        exact reached.noted after.journal
      · exact (serves connection member).mono histories

theorem keepsInUse_turns (turns : Relation.ReflTransGen (SettingsTurn number) space after) :
    KeepsInUse defined path number space after := by
  induction turns with
  | refl => exact refl_of (KeepsInUse defined path number) space
  | tail _ turn ih => exact trans_of (KeepsInUse defined path number) ih turn.keepsInUse

/-! New settings. -/

/-- Settings are kept in a file or nowhere. -/
theorem keepAt_eq_ok {path : Datum} {kept : Config}
    (given : Config.keepAt path ⟨defined, [], none⟩ = .ok kept) :
    ∃ file, kept = ⟨defined, [], file⟩ ∧ ∀ text, path = .text text → file = some text := by
  cases path with
  | null =>
      cases given
      exact ⟨none, rfl, nofun⟩
  | text text =>
      cases given
      refine ⟨some text, rfl, ?_⟩
      rintro _ ⟨⟩
      rfl
  | _ => cases given

/-- Settings that are opened were started by definitions that can be in a file. -/
theorem started_of_openConfig {definitions path : Datum}
    (opened : openConfig definitions path space = .ok number after) :
    ∃ defined file, (defined.map ConfigEntry.key).Nodup ∧
      (∀ definition ∈ defined, definition.IsDefined) ∧
      (∀ text, path = .text text → file = some text) ∧
      startConfig ⟨defined, [], file⟩ space = .ok number after := by
  rw [openConfig, Act.get_bind] at opened
  obtain ⟨document, read, opened⟩ := (Act.bind_ofExcept_eq_ok _ _ _ _ _).mp opened
  obtain ⟨config, made, opened⟩ := (Act.bind_ofExcept_eq_ok _ _ _ _ _).mp opened
  obtain ⟨kept, keeps, started⟩ := (Act.bind_ofExcept_eq_ok _ _ _ _ _).mp opened
  obtain ⟨defined, rfl⟩ := Config.ofDefinitions_eq_ok made
  obtain ⟨file, rfl, named⟩ := keepAt_eq_ok keeps
  cases definitions with
  | text name =>
      obtain ⟨distinct, each, _⟩ := Config.accepted_of_readDefinitions read made
      exact ⟨defined, file, distinct, each, named, started⟩
  | _ => cases read

/-- Shared settings are opened when there are none. -/
theorem sharedConfig_of_fresh (path : Datum) (fresh : space.shared = none) :
    sharedConfig path space = (do
      let kept ← Act.ofExcept (Config.keepAt path ⟨Config.shippedEntries, [], none⟩)
      let number ← startConfig kept
      modify fun space => { space with shared := some number }
      return number : Act Workspace Nat) space := by
  rw [sharedConfig, Act.get_bind, fresh]
  dsimp only
  rw [Config.shipped_eq, Act.ofExcept_ok_bind]

theorem sharedConfig_eq_startConfig {path : String} (fresh : space.shared = none) :
    sharedConfig (.text path) space = (do
      let number ← startConfig ⟨Config.shippedEntries, [], some path⟩
      modify fun space => { space with shared := some number }
      return number : Act Workspace Nat) space :=
  sharedConfig_of_fresh (.text path) fresh

/-- Shared settings that are opened when there are none were started by the shipped definitions. -/
theorem started_of_sharedConfig {path : Datum} (fresh : space.shared = none)
    (opened : sharedConfig path space = .ok number after) :
    ∃ file between, (∀ text, path = .text text → file = some text) ∧
      startConfig ⟨Config.shippedEntries, [], file⟩ space = .ok number between ∧
      after = { between with shared := some number } := by
  rw [sharedConfig_of_fresh path fresh] at opened
  obtain ⟨kept, keeps, opened⟩ := (Act.bind_ofExcept_eq_ok _ _ _ _ _).mp opened
  obtain ⟨file, rfl, named⟩ := keepAt_eq_ok keeps
  obtain ⟨_, between, started, finished⟩ := (Act.bind_eq_ok _ _ _ _ _).mp opened
  cases finished
  exact ⟨file, between, named, started, rfl⟩

/-- Settings that are kept at a path are opened: ones with definitions of their own, or the shared
ones. -/
inductive Opens (path : String) (number : Nat) (space after : Workspace) : Prop
  | defined (definitions : String)
      (opened : openConfig (.text definitions) (.text path) space = .ok number after)
  | shared (fresh : space.shared = none)
      (opened : sharedConfig (.text path) space = .ok number after)

theorem inUse_of_startConfig
    (started : startConfig ⟨defined, [], path⟩ space = .ok number after) :
    InUse defined path number after ∧
      ∀ file, space.files.CanKeep file → after.files.CanKeep file := by
  obtain ⟨desk, ran, rfl, rfl⟩ := startConfig_eq_ok started
  have continues := ConfigDesk.continues_start
    ⟨⟨defined, [], path⟩, space.files, space.journal⟩
  rw [Act.after_of_ok ran] at continues
  refine ⟨⟨desk.config, List.getElem?_concat_length, .started _ _ ran, ?_⟩,
    fun _ => continues.canKeep⟩
  intro connection member
  rw [continues.connections] at member
  cases member

theorem Opens.inUse {path : String} (opens : Opens path number space after) :
    ∃ defined, (defined.map ConfigEntry.key).Nodup ∧
      (∀ definition ∈ defined, definition.IsDefined) ∧ InUse defined (some path) number after := by
  cases opens with
  | defined definitionsPath opened =>
      obtain ⟨defined, file, distinct, each, named, started⟩ := started_of_openConfig opened
      cases named path rfl
      exact ⟨defined, distinct, each, (inUse_of_startConfig started).1⟩
  | shared fresh opened =>
      obtain ⟨file, between, named, started, rfl⟩ := started_of_sharedConfig fresh opened
      cases named path rfl
      have inUse : InUse Config.shippedEntries (some path) number between :=
        (inUse_of_startConfig started).1
      exact ⟨_, Config.nodup_shippedEntries, Config.isDefined_shippedEntries, inUse⟩

end Workspace

end ScriptCatalog
