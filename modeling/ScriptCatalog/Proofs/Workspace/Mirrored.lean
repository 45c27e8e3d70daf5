import ScriptCatalog.Proofs.Config.Shipped
import ScriptCatalog.Proofs.Runner.Mirrored
import ScriptCatalog.Proofs.Workspace.Kept
import ScriptCatalog.Proofs.Workspace.Listeners

/-! Runners with a history of their own. It holds the latest of the commands that the interpreter
was given since the history was cleared, as many as the settings say. -/

namespace ScriptCatalog

/-- A connection that no change makes fail: it records changes, or gives one of so many histories
the capacity that is configured, or calls a function of somebody else's. -/
def Connection.Serves (histories : Nat) (connection : Connection) : Prop :=
  ∀ history, connection.callback = .capacity history →
    connection.key = Config.maxHistoryKey ∧ history < histories

namespace Workspace

variable [Platform] {space : Workspace} {given : List Datum}

/-- A history that holds the latest of some commands, with room for so many. -/
def HistoryMirrored (number : Nat) (given : List Datum) (count : Int) (space : Workspace) : Prop :=
  ∃ history, space.histories[number]? = some history ∧ history.Mirrors given count

theorem HistoryMirrored.set {number : Nat} {count : Int} {history : History}
    (there : number < space.histories.length) (mirrors : history.Mirrors given count) :
    HistoryMirrored number given count
      { space with histories := space.histories.set number history } :=
  ⟨history, List.getElem?_set_self there, mirrors⟩

/-! Telling of changes. -/

/-- A notice that can be told: to a history it gives a certain capacity. -/
def Told (next : Int) (histories : Nat) (notice : Notice) : Prop :=
  ∀ history, notice.connection.callback = .capacity history →
    notice.value = .int next ∧ history < histories

/-- The capacity of a history once a notice was told. -/
def countAfter (number : Nat) (next count : Int) (notice : Notice) : Int :=
  if notice.connection.callback = .capacity number then next else count

/-- Histories that hold the latest of some commands hold the latest of them still, with room for so
many as is said. Nothing else changed that runners keep to. -/
structure Resized (room : Nat → Int → Int) (space after : Workspace) : Prop where
  configs : after.configs = space.configs
  files : after.files = space.files
  runners : after.runners = space.runners
  commands : after.journal.commandsGiven = space.journal.commandsGiven
  length : after.histories.length = space.histories.length
  mirrors : ∀ number given count, HistoryMirrored number given count space →
    HistoryMirrored number given (room number count) after

theorem Aside.resized {after : Workspace} (aside : Aside space after) :
    Resized (fun _ count => count) space after where
  configs := aside.configs
  files := aside.files
  runners := aside.runners
  commands := aside.commands
  length := congrArg List.length aside.histories
  mirrors := by
    rintro number given count ⟨history, kept, mirrors⟩
    exact ⟨history, aside.histories ▸ kept, mirrors⟩

theorem Resized.trans {first then_ : Nat → Int → Int} {between after : Workspace}
    (left : Resized first space between) (right : Resized then_ between after) :
    Resized (fun number count => then_ number (first number count)) space after where
  configs := right.configs.trans left.configs
  files := right.files.trans left.files
  runners := right.runners.trans left.runners
  commands := right.commands.trans left.commands
  length := right.length.trans left.length
  mirrors number given count mirrored :=
    right.mirrors number given _ (left.mirrors number given count mirrored)

variable {listeners : Listeners}

theorem notify_told (harmless : listeners.Harmless) {next : Int} (positive : 0 < next)
    {notice : Notice} (told : Told next space.histories.length notice) :
    ∃ after, notify listeners notice space = .ok () after ∧
      Resized (fun number count => countAfter number next count notice) space after := by
  have other (apart : ∀ number, notice.connection.callback ≠ .capacity number) :
      (fun number count => countAfter number next count notice) = fun _ count => count := by
    funext number count
    exact if_neg (apart number)
  unfold notify
  cases callback : notice.connection.callback with
  | recorder takesValue =>
      refine ⟨_, rfl, ?_⟩
      rw [other (by rw [callback]; exact nofun)]
      exact Aside.resized ⟨rfl, rfl, rfl, rfl, rfl, space.journal.commandsGiven_emit nofun⟩
  | foreign number takesValue =>
      obtain ⟨after, ran, aside⟩ := harmless number (if takesValue then some notice.value else none)
        space
      refine ⟨after, ran, ?_⟩
      rw [other (by rw [callback]; exact nofun)]
      exact aside.resized
  | capacity changed =>
      obtain ⟨value, there⟩ := told changed callback
      have kept : space.histories[changed]? = some space.histories[changed] :=
        List.getElem?_eq_getElem there
      obtain ⟨history, ran, mirrors⟩ :=
        HistoryDesk.setCapacity_int positive ⟨space.histories[changed], space.journal⟩
      refine ⟨{ space with histories := space.histories.set changed history }, ?_,
        rfl, rfl, rfl, rfl, List.length_set, ?_⟩
      · dsimp only
        rw [onHistory_eq _ kept, value, Act.on]
        dsimp only [Datum.ofScalar]
        rw [ran]
      · rintro number given count ⟨held, stands, before⟩
        unfold countAfter
        by_cases same : changed = number
        · cases same
          cases kept.symm.trans stands
          rw [if_pos callback]
          exact ⟨history, List.getElem?_set_self there, mirrors given count before⟩
        · rw [callback, if_neg fun equal => same (Callback.capacity.inj equal)]
          exact ⟨held, (List.getElem?_set_ne same).trans stands, before⟩

theorem notifyAll_told (harmless : listeners.Harmless) {next : Int} (positive : 0 < next)
    {notices : List Notice} (told : ∀ notice ∈ notices, Told next space.histories.length notice) :
    ∃ after, notifyAll listeners notices space = .ok () after ∧
      Resized (fun number count => notices.foldl (countAfter number next) count) space after := by
  induction notices generalizing space with
  | nil => exact ⟨space, rfl, (aside_refl space).resized⟩
  | cons notice notices ih =>
      obtain ⟨first, others⟩ := List.forall_mem_cons.mp told
      obtain ⟨between, ran, resized⟩ := notify_told harmless positive first
      rw [← resized.length] at others
      obtain ⟨after, ranOthers, resizedOthers⟩ := ih others
      exact ⟨after, (Act.bind_of_ok _ ran).trans ranOthers, resized.trans resizedOthers⟩

/-- A history that is given a capacity by one of the notices has it in the end. -/
theorem foldl_countAfter_of_mem {number : Nat} {next : Int} {notices : List Notice}
    {notice : Notice} (member : notice ∈ notices)
    (callback : notice.connection.callback = .capacity number) (count : Int) :
    notices.foldl (countAfter number next) count = next := by
  have still (others : List Notice) : others.foldl (countAfter number next) next = next := by
    induction others with
    | nil => rfl
    | cons other others ih => rw [List.foldl_cons, countAfter, ite_self, ih]
  obtain ⟨before, after, rfl⟩ := List.append_of_mem member
  rw [List.foldl_append, List.foldl_cons, countAfter, if_pos callback, still]

theorem foldl_countAfter_self (number : Nat) (count : Int) (notices : List Notice) :
    notices.foldl (countAfter number count) count = count := by
  induction notices with
  | nil => rfl
  | cons other others ih => rw [List.foldl_cons, countAfter, ite_self, ih]

/-! Runners, their settings and their histories. -/

/-- Settings of which every change can be made, saved and told, and which tell a history of its
capacity. -/
structure Configures (config : Config) (number : Nat) (space : Workspace) : Prop where
  settled : ∃ path,
    ConfigDesk.Settled Config.shippedEntries path ⟨config, space.files, space.journal⟩
  keeps : space.files.CanKeep config.savedPath
  serves : ∀ connection ∈ config.connections, connection.Serves space.histories.length
  connected : ∃ connection ∈ config.connections, connection.key = Config.maxHistoryKey ∧
    connection.callback = .capacity number

theorem Configures.congr {config : Config} {number : Nat} {other : Workspace}
    (configures : Configures config number space) (files : other.files = space.files)
    (length : other.histories.length = space.histories.length) :
    Configures config number other := by
  obtain ⟨⟨path, settled⟩, keeps, serves, connected⟩ := configures
  refine ⟨⟨path, settled.follows, settled.savedPath, ?_⟩, ?_, ?_, connected⟩
  · rw [files]
    exact settled.leads
  · rw [files]
    exact keeps
  · rw [length]
    exact serves

theorem Configures.logs {config : Config} {number : Nat}
    (configures : Configures config number space) : Config.logCommandsKey ∈ config.keys := by
  obtain ⟨path, settled⟩ := configures.settled
  rw [settled.follows.keys]
  exact Config.logCommandsKey_mem

/-- A runner in use whose history holds the latest of some commands, as many as its settings say. -/
structure Mirrored (runner : Nat) (inUse : RunnerInUse) (given : List Datum) (space : Workspace) :
    Prop where
  runs : ∃ interpret dialog, space.runners[runner]? = some { inUse with interpret, dialog }
  kept : ∃ config count, space.configs[inUse.config]? = some config ∧
    Configures config inUse.history space ∧ config.get Config.maxHistoryKey = .ok (.int count) ∧
    HistoryMirrored inUse.history given count space

/-- Whatever was done, the history holds the latest of the commands before and of those that were
given since. -/
def GoesOn (runner : Nat) (inUse : RunnerInUse) (given : List Datum) (space after : Workspace) :
    Prop :=
  ∃ commands, after.journal.commandsGiven = space.journal.commandsGiven ++ commands ∧
    Mirrored runner inUse (given ++ commands) after

variable {runner : Nat} {inUse : RunnerInUse}

theorem Mirrored.goesOn {after : Workspace} (mirrored : Mirrored runner inUse given after)
    (none : after.journal.commandsGiven = space.journal.commandsGiven) :
    GoesOn runner inUse given space after := by
  refine ⟨[], ?_, ?_⟩
  · rw [none, List.append_nil]
  · rw [List.append_nil]
    exact mirrored

/-- What can come of a run: it is cancelled or fails with histories as they were and no command
given, or one command is given, and the outcome is that of the interpreter. -/
def CancelsOrGives (interpret : Interpreter) (act : Act Workspace (Option String))
    (space : Workspace) : Prop :=
  ((act.after space).histories = space.histories ∧
      (act.after space).journal.commandsGiven = space.journal.commandsGiven ∧
      (act.outcome space = .ok none ∨ ∃ fault, act.outcome space = .error fault)) ∨
    ∃ command, act.outcome space = some <$> interpret (.text command) ∧
      (act.after space).journal.commandsGiven =
        space.journal.commandsGiven ++ [.text command]

theorem cancelsOrGives_of_error {interpret : Interpreter} {act : Act Workspace (Option String)}
    {fault : Fault} (failed : act space = .error fault space) :
    CancelsOrGives interpret act space := by
  refine .inl ⟨?_, ?_, .inr ⟨fault, Act.outcome_of_error failed⟩⟩
  · rw [Act.after_of_error failed]
  · rw [Act.after_of_error failed]

theorem config_of_there {number : Nat} {config : Config}
    (configured : space.configs[number]? = some config) :
    Workspace.config number space = .ok config space := by
  rw [Workspace.config, Act.get_bind, find, configured]
  rfl

theorem run_of_mirrored (mirrored : Mirrored runner inUse given space)
    {now : RunnerInUse} (runs : space.runners[runner]? = some now) (script : Option ScriptId)
    (invocation : Invocation) :
    CancelsOrGives now.interpret (run runner script invocation) space ∧
      GoesOn runner inUse given space (Act.after (run runner script invocation) space) := by
  have stays {fault : Fault} (failed : run runner script invocation space = .error fault space) :
      CancelsOrGives now.interpret (run runner script invocation) space ∧
        GoesOn runner inUse given space (Act.after (run runner script invocation) space) := by
    refine ⟨cancelsOrGives_of_error failed, ?_⟩
    rw [Act.after_of_error failed]
    exact mirrored.goesOn rfl
  obtain ⟨⟨interpret, dialog, runsOn⟩, config, count, configured, configures, room, history, kept,
    mirrors⟩ := mirrored
  cases runs.symm.trans runsOn
  cases script with
  | none => exact stays rfl
  | some id =>
      have ran : run runner (some id) invocation space = onRun id inUse.history
          (RunDesk.run interpret dialog space.types config invocation) space := by
        simp only [run, expect, find, Act.get_bind, pure_bind, runs]
        exact Act.bind_of_ok _ (config_of_there configured)
      cases there : space.scripts[id]? with
      | none =>
          exact stays (ran.trans (onRun_absent _ (.inl there)))
      | some script =>
          have went := ran.trans (onRun_eq _ there kept)
          have final := Act.after_of_eq_on went
          have outcome := Act.outcome_of_eq_on went
          let desk : RunDesk := ⟨script, ⟨history, space.journal⟩⟩
          have before : desk.record.history.Mirrors given count := mirrors
          obtain ⟨ended, commands, added, after⟩ :=
            RunDesk.run_goesOn before configures.logs interpret dialog space.types invocation
          refine ⟨?_, commands, ?_, ?_⟩
          · rcases ended with ⟨unrecorded, ended⟩ | ⟨command, came, once⟩
            · refine .inl ⟨?_, ?_, ?_⟩
              · rw [final]
                dsimp only
                rw [unrecorded.history, set_of_getElem? kept]
              · rw [final]
                exact unrecorded.commands
              · rw [outcome]
                exact ended
            · refine .inr ⟨command, outcome.trans came, ?_⟩
              rw [final]
              exact once
          · rw [final]
            exact added
          · rw [final]
            refine ⟨⟨interpret, dialog, runs⟩, config, count, configured, ?_, room, ?_⟩
            · exact configures.congr rfl List.length_set
            · exact HistoryMirrored.set (List.getElem?_eq_some_iff.mp kept).1 after

/-- What comes of repeating the last of some commands: it is given once more, and the outcome is
that of the interpreter; if there is none, nothing happens. -/
def RepeatsLast (runner : Nat) (interpret : Interpreter) (given : List Datum) (space : Workspace) :
    Prop :=
  match given.getLast? with
  | none => rerunLast runner space = .error .nothingToRepeat space
  | some command => (rerunLast runner).outcome space = interpret command ∧
      ((rerunLast runner).after space).journal.commandsGiven =
        space.journal.commandsGiven ++ [command]

theorem rerunLast_of_mirrored (mirrored : Mirrored runner inUse given space) {now : RunnerInUse}
    (runs : space.runners[runner]? = some now) :
    RepeatsLast runner now.interpret given space ∧
      GoesOn runner inUse given space (Act.after (rerunLast runner) space) := by
  have still := mirrored
  obtain ⟨⟨interpret, dialog, runsOn⟩, config, count, configured, configures, room, history, kept,
    mirrors⟩ := mirrored
  cases runs.symm.trans runsOn
  have ran : rerunLast runner space = onHistory inUse.history
      (HistoryDesk.executeLast interpret config) space := by
    simp only [rerunLast, find, Act.get_bind, pure_bind, runs]
    exact Act.bind_of_ok _ (config_of_there configured)
  have went := ran.trans (onHistory_eq _ kept)
  let desk : HistoryDesk := ⟨history, space.journal⟩
  have before : desk.history.Mirrors given count := mirrors
  unfold RepeatsLast
  cases last : given.getLast? with
  | none =>
      have nothing : rerunLast runner space = .error .nothingToRepeat space := by
        rw [went, Act.on, HistoryDesk.executeLast_of_none before last]
        dsimp only
        rw [set_of_getElem? kept]
      refine ⟨nothing, ?_⟩
      rw [Act.after_of_error nothing]
      exact still.goesOn rfl
  | some command =>
      have there : command ≠ .null := by
        rintro rfl
        exact mirrors.present (List.mem_of_getLast? last)
      obtain ⟨next, executed, after, commands⟩ :=
        HistoryDesk.mirrors_execute before there configures.logs interpret
      have repeated := HistoryDesk.executeLast_of_some before last interpret config
      obtain ⟨came, left⟩ := Act.outcome_of_ofExcept (repeated.trans executed)
      have outcome := Act.outcome_of_eq_on went
      have final := Act.after_of_eq_on went
      rw [came] at outcome
      rw [left] at final
      rw [final]
      refine ⟨⟨outcome, commands⟩, [command], commands, ⟨interpret, dialog, runs⟩, config, count,
        configured, ?_, room, ?_⟩
      · exact configures.congr rfl List.length_set
      · exact HistoryMirrored.set (List.getElem?_eq_some_iff.mp kept).1 after

/-- What comes of clearing a history: it is empty, and that is told. -/
def Clears (number : Nat) (history : History) (space : Workspace) : Prop :=
  onHistory number HistoryDesk.clear space = .ok () { space with
    histories := space.histories.set number { history with commands := [] }
    journal := space.journal.emit .historyCleared }

theorem clears {number : Nat} {history : History} (kept : space.histories[number]? = some history) :
    Clears number history space :=
  (onHistory_eq HistoryDesk.clear kept).trans rfl

theorem clear_of_mirrored (mirrored : Mirrored runner inUse given space) :
    Mirrored runner inUse [] (Act.after (onHistory inUse.history HistoryDesk.clear) space) := by
  obtain ⟨runs, config, count, configured, configures, room, history, kept, mirrors⟩ := mirrored
  rw [Act.after_of_ok (clears kept)]
  refine ⟨runs, config, count, configured, configures.congr rfl List.length_set, room, ?_⟩
  exact HistoryMirrored.set (List.getElem?_eq_some_iff.mp kept).1 mirrors.clear

/-! Changes of settings. -/

/-- The configured capacity after a setting was changed: what it was, or what the setting was given
if it is the capacity that was changed. -/
theorem maxHistory_putEntry {config : Config} {entry changed : ConfigEntry} {key : String}
    {value : Datum} {differs : Bool} {count : Int}
    (follows : (config.putEntry changed).Follows Config.shippedEntries)
    (found : config.entry key = .ok entry) (set : entry.set value = .ok (changed, differs))
    (given : config.get Config.maxHistoryKey = .ok (.int count)) :
    ∃ next : Int, 0 < next ∧
      (config.putEntry changed).get Config.maxHistoryKey = .ok (.int next) ∧
      (key = Config.maxHistoryKey → changed.value = .int next) ∧
      (key ≠ Config.maxHistoryKey ∨ differs = false → next = count) := by
  obtain ⟨next, positive, room⟩ := Config.exists_maxHistory follows
  obtain ⟨scalar, _, _, made, rfl⟩ := ConfigEntry.set_eq_ok set
  have before : entry.key = key := Config.key_of_entry found
  have named : changed.key = key := by
    rw [made]
    exact before
  refine ⟨next, positive, room, ?_⟩
  by_cases capacity : key = Config.maxHistoryKey
  · cases capacity
    rw [Config.get_putEntry_self found named] at room
    rw [Config.get_of_entry found] at given
    have value : changed.value = .int next := Except.ok.inj room
    have before : entry.value = .int count := Except.ok.inj given
    refine ⟨fun _ => value, ?_⟩
    rintro (different | same)
    · exact absurd rfl different
    · rw [made] at value
      cases value
      rw [before] at same
      simp only [Scalar.same, Bool.not_eq_eq_eq_not, Bool.not_false, beq_iff_eq] at same
      exact same.symm
  · obtain ⟨other, there, _⟩ := (Except.bind_eq_ok _ _ _).mp given
    have apart := fun same => capacity (named.symm.trans same)
    rw [Config.get_putEntry_of_ne apart there, given] at room
    cases room
    exact ⟨fun same => absurd same capacity, fun _ => rfl⟩

theorem told_connected {config : Config} {histories : Nat} {key : String} {value : Scalar}
    {room : Int} (serves : ∀ connection ∈ config.connections, connection.Serves histories)
    (valued : key = Config.maxHistoryKey → value = .int room) :
    ∀ notice ∈ (config.connected key).map fun connection => ({ connection, value } : Notice),
      Told room histories notice := by
  intro notice member history callback
  obtain ⟨connection, there, rfl⟩ := List.mem_map.mp member
  obtain ⟨there, named⟩ := List.mem_filter.mp there
  obtain ⟨capacity, inside⟩ := serves connection there history callback
  exact ⟨valued ((eq_of_beq named).symm.trans capacity), inside⟩

/-- A history that is connected to its capacity has what is configured once a change was told. -/
theorem countAfter_connected {config : Config} {number : Nat} {key : String} {value : Scalar}
    {room count : Int}
    (connected : ∃ connection ∈ config.connections, connection.key = Config.maxHistoryKey ∧
      connection.callback = .capacity number)
    (unchanged : key ≠ Config.maxHistoryKey → room = count) :
    ((config.connected key).map fun connection => ({ connection, value } : Notice)).foldl
      (countAfter number room) count = room := by
  by_cases capacity : key = Config.maxHistoryKey
  · obtain ⟨connection, there, named, callback⟩ := connected
    have chosen : connection ∈ config.connected key := by
      refine List.mem_filter.mpr ⟨there, ?_⟩
      rw [named, capacity]
      exact beq_self_eq_true _
    exact foldl_countAfter_of_mem (List.mem_map_of_mem chosen) callback count
  · rw [unchanged capacity]
    exact foldl_countAfter_self _ _ _

theorem changeSetting_of_mirrored (harmless : listeners.Harmless)
    (mirrored : Mirrored runner inUse given space) (key : String) (value : Datum) (saving : Bool) :
    GoesOn runner inUse given space
      (Act.after (changeSettingAmong listeners inUse.config key value saving) space) := by
  have still := mirrored
  obtain ⟨runs, config, count, configured, configures, room, kept⟩ := mirrored
  obtain ⟨⟨path, settled⟩, keeps, serves, connected⟩ := configures
  rw [Act.after, changeSettingAmong]
  rcases ConfigDesk.change_of_shipped settled keeps key value saving with
    ⟨fault, failed, _⟩ | ⟨entry, changed, differs, files, found, set, next, ran⟩
  · rw [Act.bind_of_error _ (onConfig_of_error configured failed)]
    exact still.goesOn rfl
  · rw [Act.bind_of_ok _ (onConfig_of_ok configured ran)]
    obtain ⟨most, positive, room, valued, unchanged⟩ :=
      maxHistory_putEntry next.follows found set room
    have inPlace : (space.configs.set inUse.config (config.putEntry changed))[inUse.config]? =
        some (config.putEntry changed) :=
      List.getElem?_set_self (List.getElem?_eq_some_iff.mp configured).1
    have keepsStill : files.CanKeep config.savedPath := by
      have continues := ConfigDesk.continues_change key value saving
        ⟨config, space.files, space.journal⟩
      rw [Act.after_of_ok ran] at continues
      exact continues.canKeep keeps
    cases differs with
    | false =>
        refine Mirrored.goesOn ⟨runs, _, most, inPlace, ?_, room, ?_⟩ rfl
        · exact ⟨⟨path, next⟩, keepsStill, serves, connected⟩
        · rw [unchanged (.inr rfl)]
          exact kept
    | true =>
        let changedSpace : Workspace := { space with
          configs := space.configs.set inUse.config (config.putEntry changed), files }
        have told : ∀ notice ∈ _, Told most changedSpace.histories.length notice :=
          told_connected serves valued
        obtain ⟨after, ranAll, resized⟩ := notifyAll_told harmless positive told
        have mirrors := resized.mirrors inUse.history given count kept
        rw [countAfter_connected connected fun different => unchanged (.inl different)] at mirrors
        refine (congrArg (GoesOn runner inUse given space) (Act.after_of_ok ranAll)).mpr ?_
        have configures : Configures (config.putEntry changed) inUse.history changedSpace :=
          ⟨⟨path, next⟩, keepsStill, serves, connected⟩
        refine Mirrored.goesOn ⟨?_, _, most, ?_, ?_, room, mirrors⟩ resized.commands
        · rw [resized.runners]
          exact runs
        · rw [resized.configs]
          exact inPlace
        · exact configures.congr resized.files resized.length

/-! Whatever is done with a runner. -/

/-- What is done with a runner and with its settings. Scripts and enumerations may be others the
next time, and the interpreter and the dialog may answer otherwise. Functions that are connected to
the settings do no harm, each time others. -/
inductive Turn (runner : Nat) (inUse : RunnerInUse) (space : Workspace) : Workspace → Prop
  | run (script : Option ScriptId) (invocation : Invocation) :
      Turn runner inUse space (Act.after (run runner script invocation) space)
  | rerunLast : Turn runner inUse space (Act.after (rerunLast runner) space)
  | changeSetting {listeners : Listeners} (harmless : listeners.Harmless) (key : String)
      (value : Datum) (saving : Bool) :
      Turn runner inUse space
        (Act.after (changeSettingAmong listeners inUse.config key value saving) space)
  | meanwhile (types : EnumTypes) (scripts : List Script) (interpret : Interpreter)
      (dialog : Option ArgumentDialog) :
      Turn runner inUse space { space with
        types, scripts, runners := space.runners.set runner { inUse with interpret, dialog } }

/-- The commands that the interpreter was given in between. -/
def givenBetween (space after : Workspace) : List Datum :=
  after.journal.commandsGiven.drop space.journal.commandsGiven.length

/-- Turns with a runner and calls that clear its history, with the commands that the interpreter was
given since the last of those calls. -/
inductive Turns (runner : Nat) (inUse : RunnerInUse) (start : Workspace) :
    List Datum → Workspace → Prop
  | none : Turns runner inUse start [] start
  | turn {given : List Datum} {space after : Workspace}
      (turns : Turns runner inUse start given space) (turn : Turn runner inUse space after) :
      Turns runner inUse start (given ++ givenBetween space after) after
  | clear {given : List Datum} {space : Workspace} (turns : Turns runner inUse start given space) :
      Turns runner inUse start [] (Act.after (onHistory inUse.history HistoryDesk.clear) space)

theorem Mirrored.turn {after : Workspace} (mirrored : Mirrored runner inUse given space)
    (turn : Turn runner inUse space after) : GoesOn runner inUse given space after := by
  obtain ⟨interpret, dialog, runs⟩ := mirrored.runs
  cases turn with
  | run script invocation => exact (run_of_mirrored mirrored runs script invocation).2
  | rerunLast => exact (rerunLast_of_mirrored mirrored runs).2
  | changeSetting harmless key value saving =>
      exact changeSetting_of_mirrored harmless mirrored key value saving
  | meanwhile types scripts interpret dialog =>
      obtain ⟨config, count, configured, configures, room, kept⟩ := mirrored.kept
      refine Mirrored.goesOn ⟨⟨interpret, dialog, List.getElem?_set_self ?_⟩, config, count,
        configured, configures.congr rfl rfl, room, kept⟩ rfl
      exact (List.getElem?_eq_some_iff.mp runs).1

theorem Mirrored.turns {start after : Workspace} (mirrored : Mirrored runner inUse [] start)
    (turns : Turns runner inUse start given after) : Mirrored runner inUse given after := by
  induction turns with
  | none => exact mirrored
  | turn _ turn ih =>
      obtain ⟨commands, added, goesOn⟩ := ih.turn turn
      rw [givenBetween, added, List.drop_left]
      exact goesOn
  | clear _ ih => exact clear_of_mirrored ih

/-! New runners. -/

/-- Settings in service: the shipped ones, whatever was done with them since they were opened, kept
where they can be saved, with connections that no change makes fail. -/
structure InService (config : Config) (space : Workspace) : Prop where
  reached : ∃ path,
    ConfigDesk.Reached Config.shippedEntries path ⟨config, space.files, space.journal⟩
  keeps : space.files.CanKeep config.savedPath
  serves : ∀ connection ∈ config.connections, connection.Serves space.histories.length

theorem startConfig_eq_ok {config : Config} {number : Nat} {after : Workspace}
    (started : startConfig config space = .ok number after) :
    ∃ desk, ConfigDesk.start ⟨config, space.files, space.journal⟩ = .ok () desk ∧
      number = space.configs.length ∧ after = { space with
        configs := space.configs ++ [desk.config]
        files := desk.files
        journal := desk.journal } := by
  unfold startConfig at started
  cases ran : ConfigDesk.start ⟨config, space.files, space.journal⟩ with
  | ok value desk =>
      rw [ran] at started
      cases started
      exact ⟨desk, rfl, rfl, rfl⟩
  | error fault desk =>
      rw [ran] at started
      cases started

/-- Settings that are opened to be shared are in service, if they can be saved. -/
theorem inService_of_sharedConfig {path : String} {number : Nat} {after : Workspace}
    (shared : ∀ known ∈ space.shared, ∀ config, space.configs[known]? = some config →
      InService config space)
    (writable : space.shared = none → ∃ place, space.files.Takes path place)
    (opened : sharedConfig (.text path) space = .ok number after) :
    ∀ config, after.configs[number]? = some config → InService config after := by
  rw [sharedConfig, Act.get_bind] at opened
  cases known : space.shared with
  | some before =>
      rw [known] at opened
      cases opened
      exact shared _ known
  | none =>
      rw [known] at opened
      dsimp only at opened
      rw [Config.shipped_eq, Act.ofExcept_ok_bind] at opened
      obtain ⟨kept, same, opened⟩ := (Act.bind_ofExcept_eq_ok _ _ _ _ _).mp opened
      cases same
      obtain ⟨_, between, started, finished⟩ := (Act.bind_eq_ok _ _ _ _ _).mp opened
      cases finished
      obtain ⟨desk, ran, rfl, rfl⟩ := startConfig_eq_ok started
      intro config there
      cases List.getElem?_concat_length.symm.trans there
      have continues := ConfigDesk.continues_start
        ⟨⟨Config.shippedEntries, [], some path⟩, space.files, space.journal⟩
      rw [Act.after_of_ok ran] at continues
      refine ⟨⟨some path, .started _ _ ran⟩, continues.canKeep ?_, fun connection member => ?_⟩
      · rw [continues.savedPath]
        rintro _ ⟨⟩
        exact writable known
      · rw [continues.connections] at member
        cases member

theorem mem_putConnection (connection : Connection) (connections : List Connection) :
    connection ∈ Config.putConnection connection connections := by
  induction connections with
  | nil => exact List.mem_cons_self
  | cons other rest ih =>
      rw [Config.putConnection]
      split
      · exact List.mem_cons_self
      · exact List.mem_cons_of_mem other ih

theorem eq_or_mem_of_mem_putConnection {connection made : Connection}
    {connections : List Connection} (member : connection ∈ Config.putConnection made connections) :
    connection = made ∨ connection ∈ connections := by
  induction connections with
  | nil => exact .inl (List.mem_singleton.mp member)
  | cons other rest ih =>
      rw [Config.putConnection] at member
      split at member
      · rcases List.mem_cons.mp member with rfl | later
        · exact .inl rfl
        · exact .inr (List.mem_cons_of_mem other later)
      · rcases List.mem_cons.mp member with rfl | later
        · exact .inr List.mem_cons_self
        · exact (ih later).imp_right (List.mem_cons_of_mem other)

/-- The settings of a new runner: given ones, or those that are shared. -/
def runnerSettings : Option Nat → Act Workspace Nat
  | some number => pure number
  | none => do sharedConfig (.text (← get).files.standardPath)

/-- A new runner with certain settings and a history of its own. -/
def runnerUnder (settings : Nat) (interpret : Interpreter) (dialog : Option ArgumentDialog) :
    Act Workspace Nat := do
  let history ← runnerHistory (← Workspace.config settings) none
  let number := (← get).runners.length
  connect settings
    { key := Config.maxHistoryKey, owner := .runner number, callback := .capacity history } 1
  modify fun space =>
    { space with
      runners := space.runners ++ [{ config := settings, history, interpret, dialog }] }
  return number

theorem addRunner_eq (choice : Option Nat) (interpret : Interpreter)
    (dialog : Option ArgumentDialog) :
    addRunner choice none interpret dialog =
      runnerSettings choice >>= fun settings => runnerUnder settings interpret dialog := by
  cases choice with
  | some number => rfl
  | none => rfl

theorem runnerHistory_none (space : Workspace) {config : Config} {count : Int}
    (positive : 0 < count)
    (capacity : config.get Config.maxHistoryKey = .ok (.int count)) :
    ∃ history : History, history.Mirrors [] count ∧
      runnerHistory config none space =
        .ok space.histories.length { space with histories := space.histories ++ [history] } := by
  have roomy := (History.isPositive_int_iff count).mpr positive
  have made : History.make (.int count) = .ok ⟨[], .int count, roomy⟩ := dif_pos roomy
  refine ⟨⟨[], .int count, roomy⟩, ?_, ?_⟩
  · refine ⟨List.suffix_rfl, absurd rfl, rfl, ?_, List.not_mem_nil⟩
    change (0 : Int) ≤ count
    omega
  · rw [runnerHistory, capacity, Act.ofExcept_ok_bind, Datum.ofScalar, made]
    rfl

theorem connect_of_get {number : Nat} {config : Config} (connection : Connection) {value : Scalar}
    (configured : space.configs[number]? = some config)
    (known : config.get connection.key = .ok value) :
    connect number connection 1 space = .ok () { space with
      configs := space.configs.set number { config with
        connections := Config.putConnection connection config.connections } } := by
  obtain ⟨entry, found, _⟩ := (Except.bind_eq_ok _ _ _).mp known
  have connected : config.connect connection 1 = .ok { config with
      connections := Config.putConnection connection config.connections } := by
    rw [Config.connect, found]
    rfl
  refine (Act.bind_of_ok _ (config_of_there configured)).trans ?_
  rw [connected]
  rfl

theorem mirrored_of_runnerUnder {settings : Nat} {interpret : Interpreter}
    {dialog : Option ArgumentDialog} {start : Workspace}
    (inService : ∀ config, space.configs[settings]? = some config → InService config space)
    (made : runnerUnder settings interpret dialog space = .ok runner start)
    (runs : start.runners[runner]? = some inUse) : Mirrored runner inUse [] start := by
  unfold runnerUnder at made
  obtain ⟨config, _, found, made⟩ := (Act.bind_eq_ok _ _ _ _ _).mp made
  cases (reads_config settings).state_eq found
  have configured : space.configs[settings]? = some config := find_eq_ok found
  obtain ⟨⟨path, reached⟩, keeps, serves⟩ := inService config configured
  have settled := reached.settled Config.nodup_shippedEntries Config.isDefined_shippedEntries
  obtain ⟨count, positive, capacity⟩ := Config.exists_maxHistory settled.follows
  obtain ⟨history, mirrors, recorded⟩ := runnerHistory_none space positive capacity
  rw [Act.bind_of_ok _ recorded, Act.get_bind] at made
  let own : Connection :=
    ⟨Config.maxHistoryKey, .runner space.runners.length, .capacity space.histories.length⟩
  let roomier : Workspace := { space with histories := space.histories ++ [history] }
  have still : roomier.configs[settings]? = some config := configured
  have placed := (Act.bind_of_ok _ (connect_of_get own still capacity)).symm.trans made
  cases placed
  cases List.getElem?_concat_length.symm.trans runs
  have inPlace {changed : Config} :
      (space.configs.set settings changed)[settings]? = some changed :=
    List.getElem?_set_self (List.getElem?_eq_some_iff.mp configured).1
  refine ⟨⟨interpret, dialog, runs⟩, _, count, inPlace, ⟨?_, keeps, ?_, ?_⟩, capacity, history,
    List.getElem?_concat_length, mirrors⟩
  · exact ⟨path, settled.follows, settled.savedPath, settled.leads⟩
  · intro connection member number callback
    change _ ∧ number < (space.histories ++ [history]).length
    rw [List.length_append]
    rcases eq_or_mem_of_mem_putConnection member with rfl | before
    · cases callback
      exact ⟨rfl, Nat.lt_succ_self _⟩
    · obtain ⟨key, inside⟩ := serves connection before number callback
      exact ⟨key, Nat.lt_succ_of_lt inside⟩
  · exact ⟨own, mem_putConnection _ _, rfl, rfl⟩

/-- A new runner with no history given has an empty one, which settings in service keep to its
capacity. -/
theorem mirrored_of_addRunner {choice : Option Nat} {interpret : Interpreter}
    {dialog : Option ArgumentDialog} {start : Workspace}
    (serviceable : ∀ known ∈ choice.or space.shared, ∀ config,
      space.configs[known]? = some config → InService config space)
    (writable : choice.or space.shared = none →
      ∃ place, space.files.Takes space.files.standardPath place)
    (made : addRunner choice none interpret dialog space = .ok runner start)
    (runs : start.runners[runner]? = some inUse) : Mirrored runner inUse [] start := by
  rw [addRunner_eq] at made
  obtain ⟨settings, opened, chosen, made⟩ := (Act.bind_eq_ok _ _ _ _ _).mp made
  refine mirrored_of_runnerUnder ?_ made runs
  cases choice with
  | some known =>
      cases chosen
      exact serviceable _ rfl
  | none => exact inService_of_sharedConfig serviceable writable chosen

/-- The history of a runner that was given none holds, in whatever state they are, the latest of the
commands given to the interpreter since it was last cleared: as many as the settings say, and one at
least if any was given. The last one is the one that is repeated. A run gives one command, or it is
cancelled or fails, and then histories and commands are what they were. Clearing the history empties
it, and no turn takes back what was given. -/
theorem history_mirrors_commands_given {choice : Option Nat} {interpret : Interpreter}
    {dialog : Option ArgumentDialog} {start after : Workspace}
    (serviceable : ∀ known ∈ choice.or space.shared, ∀ config,
      space.configs[known]? = some config → InService config space)
    (writable : choice.or space.shared = none →
      ∃ place, space.files.Takes space.files.standardPath place)
    (made : addRunner choice none interpret dialog space = .ok runner start)
    (runs : start.runners[runner]? = some inUse)
    (turns : Turns runner inUse start given after) :
    ∃ (config : Config) (count : Int) (history : History) (now : RunnerInUse),
      after.configs[inUse.config]? = some config ∧
      config.get Config.maxHistoryKey = .ok (.int count) ∧
      after.histories[inUse.history]? = some history ∧ history.capacity = .int count ∧
      history.commands <:+ given ∧ (given ≠ [] → history.commands ≠ []) ∧
      (history.commands.length : Int) ≤ count ∧
      after.runners[runner]? = some now ∧ RepeatsLast runner now.interpret given after ∧
      (∀ script invocation,
        CancelsOrGives now.interpret (run runner script invocation) after) ∧
      Clears inUse.history history after ∧
      ∀ next, Turn runner inUse after next →
        after.journal.commandsGiven <+: next.journal.commandsGiven := by
  have mirrored := (mirrored_of_addRunner serviceable writable made runs).turns turns
  obtain ⟨interpret, dialog, runsStill⟩ := mirrored.runs
  obtain ⟨config, count, configured, _, capacity, history, kept, mirrors⟩ := mirrored.kept
  refine ⟨config, count, history, _, configured, capacity, kept, mirrors.capacity,
    mirrors.suffix, mirrors.nonempty, mirrors.fits, runsStill, ?_, ?_, clears kept, ?_⟩
  · exact (rerunLast_of_mirrored mirrored runsStill).1
  · exact fun script invocation => (run_of_mirrored mirrored runsStill script invocation).1
  · intro next turn
    obtain ⟨commands, added, _⟩ := mirrored.turn turn
    exact ⟨commands, added.symm⟩

end Workspace

namespace Workspace

/-- A workspace with a script that takes no arguments, and the shipped settings, kept nowhere. -/
def furnished : Workspace :=
  { empty with
    scripts := [Script.ofArguments (.plain "s") []]
    configs := [⟨Config.shippedEntries, [], none⟩] }

def echo : Interpreter
  | .text words => .ok words
  | _ => .error .absentObject

def employed : Workspace := Act.after (addRunner (some 0) none echo none) furnished

/-- The script is run, its command is repeated, and then there is room for one command only. -/
theorem history_mirrors_commands_given_furnished :
    addRunner (some 0) none echo none furnished = .ok 0 employed ∧
      ∃ after, Turns 0 ⟨0, 0, echo, none⟩ employed [.text "(s)", .text "(s)"] after ∧
        ∃ (config : Config) (count : Int) (history : History) (now : RunnerInUse),
          after.configs[0]? = some config ∧ config.get Config.maxHistoryKey = .ok (.int count) ∧
          after.histories[0]? = some history ∧ history.capacity = .int count ∧
          history.commands <:+ [.text "(s)", .text "(s)"] ∧
          ([.text "(s)", .text "(s)"] ≠ ([] : List Datum) → history.commands ≠ []) ∧
          (history.commands.length : Int) ≤ count ∧
          after.runners[0]? = some now ∧
          RepeatsLast 0 now.interpret [.text "(s)", .text "(s)"] after ∧
          (∀ script invocation, CancelsOrGives now.interpret (run 0 script invocation) after) ∧
          Clears 0 history after ∧
          ∀ next, Turn 0 ⟨0, 0, echo, none⟩ after next →
            after.journal.commandsGiven <+: next.journal.commandsGiven := by
  have serviceable : ∀ known ∈ (some 0).or furnished.shared, ∀ config,
      furnished.configs[known]? = some config → InService config furnished := by
    rintro _ ⟨⟩ config there
    cases there
    refine ⟨⟨none, .started _ _ rfl⟩, ?_, List.forall_mem_nil _⟩
    rintro _ ⟨⟩
  have made : addRunner (some 0) none echo none furnished = .ok 0 employed := rfl
  have runs : employed.runners[0]? = some ⟨0, 0, echo, none⟩ := rfl
  have first : Turn 0 ⟨0, 0, echo, none⟩ employed _ := .run (some 0) (.list [.int 0])
  have turns := ((Turns.none.turn first).turn .rerunLast).turn
    (.changeSetting Listeners.harmless_silent Config.maxHistoryKey (.int 1) true)
  exact ⟨made, _, turns, history_mirrors_commands_given serviceable nofun made runs turns⟩

/-- A change of the configured capacity fails and stays made, and the history of a runner has the
capacity that it had. -/
def Outruns (listeners : Listeners) (count kept : Int) (space : Workspace) : Prop :=
  ∃ start fault after, addRunner (some 0) none echo none space = .ok 0 start ∧
    changeSettingAmong listeners 0 Config.maxHistoryKey (.int count) true start =
      .error fault after ∧
    (∃ config, after.configs[0]? = some config ∧
      config.get Config.maxHistoryKey = .ok (.int count)) ∧
    ∃ history, after.histories[0]? = some history ∧ history.capacity = .int kept

/-- Settings of which one is a capacity without a range. -/
def unbounded : Json :=
  .object [(Config.maxHistoryKey, .object [("type", .string "int"), ("label", .string "M"),
    ("category", .string ""), ("description", .string ""), ("default", .int 5)])]

def failing : Listeners := fun _ _ => throw .absentObject

/-- The shipped settings, kept in a file that cannot be written. -/
def sealed : Workspace :=
  { empty with
    configs := [⟨Config.shippedEntries, [], some "s"⟩]
    files := { Files.empty with
      entries := [(["work", "s"], "\x7b\x7d")]
      locked := [["work", "s"]] } }

theorem leads_sealed : sealed.files.Leads "s" ["work", "s"] :=
  Files.leads_of_isSingleName (by decide) rfl rfl

theorem outruns_sealed : Outruns silent 5 50 sealed := by
  let config : Config := ⟨Config.shippedEntries,
    [⟨Config.maxHistoryKey, .runner 0, .capacity 0⟩], some "s"⟩
  have refused (text : String) : sealed.files.write "s" text = .error (.notAllowed "s") :=
    leads_sealed.write_of_locked rfl
  obtain ⟨entry, changed, found, given, value, named⟩ : ∃ entry changed,
      config.entry Config.maxHistoryKey = .ok entry ∧ entry.set (.int 5) = .ok (changed, true) ∧
        changed.value = .int 5 ∧ changed.key = Config.maxHistoryKey :=
    ⟨_, _, rfl, rfl, rfl, rfl⟩
  let start : Workspace := Act.after (addRunner (some 0) none echo none) sealed
  have there : start.configs[0]? = some config := rfl
  have failed : ConfigDesk.change Config.maxHistoryKey (.int 5) true
      ⟨config, start.files, start.journal⟩ =
        .error (.notAllowed "s") ⟨config.putEntry changed, start.files, start.journal⟩ :=
    ConfigDesk.change_of_unsaved found given (ConfigDesk.save_of_refused rfl refused)
  have ran := onConfig_eq (ConfigDesk.change Config.maxHistoryKey (.int 5) true) there
  rw [Act.on, failed] at ran
  refine ⟨start, _, _, rfl, Act.bind_of_error _ ran, ⟨_, rfl, ?_⟩, _, rfl, rfl⟩
  exact (Config.get_putEntry_self found named).trans (congrArg Except.ok value)

/-- A setting can get ahead of the history that keeps to it: where it can be set to what is no
capacity, where a function of somebody else's fails first, and where it is changed and not saved. -/
theorem configured_capacity_not_taken :
    (∃ config, Config.ofDefinitions unbounded = .ok config ∧
      Outruns silent 0 5 { empty with configs := [config] }) ∧
    (∃ watched, connect 0 ⟨Config.maxHistoryKey, .named "a", .foreign 0 true⟩ 1 furnished =
        .ok () watched ∧ Outruns failing 5 50 watched) ∧
    startConfig ⟨Config.shippedEntries, [], some "s"⟩ { sealed with configs := [] } =
      .ok 0 sealed ∧ Outruns silent 5 50 sealed := by
  have started : ConfigDesk.start ⟨⟨Config.shippedEntries, [], some "s"⟩, sealed.files, []⟩ =
      .ok () ⟨⟨Config.shippedEntries, [], some "s"⟩, sealed.files, []⟩ :=
    ConfigDesk.start_of_no_values rfl leads_sealed (by decide) rfl
  refine ⟨⟨_, rfl, ?_⟩, ⟨_, rfl, ?_⟩, startConfig_of_ok started, outruns_sealed⟩
  · exact ⟨_, _, _, rfl, rfl, ⟨_, rfl, rfl⟩, _, rfl, rfl⟩
  · exact ⟨_, _, _, rfl, rfl, ⟨_, rfl, rfl⟩, _, rfl, rfl⟩

end Workspace

end ScriptCatalog
