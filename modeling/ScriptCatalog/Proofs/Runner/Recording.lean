import ScriptCatalog.Proofs.Act
import ScriptCatalog.Runner

/-! Recording commands. A command that is executed is added to the history, which drops the oldest
ones for which it has no room, and is given to the interpreter once, whether that fails or not. -/

namespace ScriptCatalog

variable [Platform]

namespace Journal

def commandsGiven (journal : Journal) : List Datum :=
  journal.events.filterMap fun
    | .interpreted command => some command
    | _ => none

theorem commandsGiven_log (journal : Journal) (level : Level) (channel : Channel)
    (text : String) : (journal.log level channel text).commandsGiven = journal.commandsGiven := by
  rw [commandsGiven, log, events_append]
  simp [commandsGiven, events]

/-- An event that is not that of a command that is given. -/
theorem commandsGiven_emit (journal : Journal) {event : Event}
    (other : ∀ command, event ≠ .interpreted command) :
    (journal.emit event).commandsGiven = journal.commandsGiven := by
  rw [commandsGiven, emit, events_append]
  cases event with
  | interpreted command => exact absurd rfl (other command)
  | _ => simp [commandsGiven, events]

theorem commandsGiven_commandAdded (journal : Journal) (command : String) :
    (journal.emit (.commandAdded command)).commandsGiven = journal.commandsGiven :=
  journal.commandsGiven_emit nofun

theorem commandsGiven_dialogOpened (journal : Journal) (script : Datum) (bound : Nat) :
    (journal.emit (.dialogOpened script bound)).commandsGiven = journal.commandsGiven :=
  journal.commandsGiven_emit nofun

theorem commandsGiven_interpreted (journal : Journal) (command : Datum) :
    (journal.emit (.interpreted command)).commandsGiven = journal.commandsGiven ++ [command] := by
  rw [commandsGiven, emit, events_append]
  simp [commandsGiven, events]

end Journal

theorem Config.get_of_mem_keys (config : Config) (key : String) (defined : key ∈ config.keys) :
    ∃ value, config.get key = .ok value := by
  obtain ⟨entry, member, rfl⟩ := List.mem_map.mp defined
  have found : Option.isSome <| config.entry? entry.key := by
    unfold Config.entry?
    rw [List.find?_isSome]
    exact ⟨entry, member, beq_self_eq_true _⟩
  obtain ⟨held, same⟩ := Option.isSome_iff_exists.mp found
  refine ⟨held.value, ?_⟩
  simp only [get, Config.entry, same]
  rfl

theorem Config.getTruth_of_mem_keys (config : Config) (key : String) (defined : key ∈ config.keys) :
    ∃ truth, config.getTruth key = .ok truth := by
  obtain ⟨value, found⟩ := config.get_of_mem_keys key defined
  refine ⟨(Datum.ofScalar value).truth, ?_⟩
  rw [getTruth, found]
  rfl

namespace History

theorem newest_of_length_le (room : Nat) (commands : List Datum)
    (enough : commands.length ≤ room) : newest room commands = commands := by
  rw [newest, Nat.sub_eq_zero_of_le enough, List.drop_zero]

theorem length_le_of_not_overfull (history : History) (room : Nat)
    (whole : history.capacity.count? = some room) (fits : history.isOverfull = false) :
    history.commands.length ≤ room := by
  obtain ⟨commands, capacity, positive⟩ := history
  cases capacity with
  | bool value =>
      cases whole
      simpa [isOverfull, Scalar.lessThanCount] using fits
  | int value =>
      cases whole
      simp only [isOverfull, Scalar.lessThanCount, decide_eq_false_iff_not] at fits
      change commands.length ≤ value.toNat
      omega
  | real value => cases whole
  | text words => cases whole

theorem trim_eq (history : History) (room : Nat) (whole : history.capacity.count? = some room) :
    history.trim = .ok { history with commands := newest room history.commands } := by
  unfold trim
  cases full : history.isOverfull with
  | true =>
      simp only [if_true, whole]
  | false =>
      rw [newest_of_length_le room _ (length_le_of_not_overfull history room whole full)]
      rfl

end History

namespace HistoryDesk

/-- The desk after a command was added to a history with room for so many. -/
def added (room : Nat) (command : Datum) (desk : HistoryDesk) : HistoryDesk :=
  { history := { desk.history with
      commands := History.newest room (desk.history.commands ++ [command]) }
    journal := desk.journal.emit (.commandAdded (heard command)) }

theorem trim_eq (desk : HistoryDesk) (room : Nat)
    (whole : desk.history.capacity.count? = some room) :
    trim desk = .ok () { desk with history := { desk.history with
      commands := History.newest room desk.history.commands } } := by
  change (Act.ofExcept desk.history.trim >>= setHistory) desk = _
  rw [History.trim_eq desk.history room whole]
  rfl

theorem add_eq (command : Datum) (desk : HistoryDesk) (room : Nat)
    (whole : desk.history.capacity.count? = some room) :
    add command desk = .ok () (added room command desk) :=
  Act.bind_of_ok _ (trim_eq { desk with history := desk.history.push command } room whole)

theorem add_of_trim_ok (command : Datum) (desk : HistoryDesk) {kept : History}
    (trimmed : (desk.history.push command).trim = .ok kept) :
    add command desk = .ok () ⟨kept, desk.journal.emit (.commandAdded (heard command))⟩ := by
  have ran : trim { desk with history := desk.history.push command } =
      .ok () { desk with history := kept } := by
    change (Act.ofExcept (desk.history.push command).trim >>= setHistory) _ = _
    rw [trimmed]
    rfl
  exact Act.bind_of_ok _ ran

/-- A command for which the commands cannot be trimmed stays, and nobody is told of it. -/
theorem add_of_trim_error (command : Datum) (desk : HistoryDesk) {fault : Fault}
    (failed : (desk.history.push command).trim = .error fault) :
    add command desk = .error fault { desk with history := desk.history.push command } := by
  have ran : trim { desk with history := desk.history.push command } =
      .error fault { desk with history := desk.history.push command } := by
    change (Act.ofExcept (desk.history.push command).trim >>= setHistory) _ = _
    rw [failed]
    rfl
  change (trim >>= fun _ => emit (.commandAdded (heard command))) _ = _
  exact Act.bind_of_error _ ran

/-- A room that can be taken is taken, and of the commands the newest stay. -/
theorem setCapacity_of_taken {capacity : Datum} {desk : HistoryDesk} {resized : History}
    {room : Nat} (taken : History.ofCommands desk.history.commands capacity = .ok resized)
    (whole : resized.capacity.count? = some room) :
    setCapacity capacity desk = .ok () { desk with history := { resized with
      commands := History.newest room resized.commands } } := by
  rw [setCapacity, Act.get_bind, taken]
  exact trim_eq { desk with history := resized } room whole

/-- The desk after a command was given to the interpreter. A failure is logged. -/
def evaluated (interpret : Interpreter) (command : Datum) (desk : HistoryDesk) : HistoryDesk :=
  let journal := desk.journal.emit (.interpreted command)
  match interpret command with
  | .ok _ => { desk with journal }
  | .error fault =>
      { desk with journal :=
          journal.log .error .runner s!"Command {command.display} failed: {fault.message}" }

theorem evaluated_history (interpret : Interpreter) (command : Datum) (desk : HistoryDesk) :
    (evaluated interpret command desk).history = desk.history := by
  unfold evaluated
  cases interpret command with
  | ok result => rfl
  | error fault => rfl

theorem evaluated_commandsGiven (interpret : Interpreter) (command : Datum)
    (desk : HistoryDesk) :
    (evaluated interpret command desk).journal.commandsGiven =
      desk.journal.commandsGiven ++ [command] := by
  unfold evaluated
  cases interpret command with
  | ok result => exact Journal.commandsGiven_interpreted _ _
  | error fault =>
      simp only [Journal.commandsGiven_log]
      exact Journal.commandsGiven_interpreted _ _

def announced (logged : Bool) (command : Datum) (desk : HistoryDesk) : HistoryDesk :=
  if logged then
    { desk with journal := desk.journal.log .info .runner s!"Running command: {command.display}" }
  else desk

theorem announced_history (logged : Bool) (command : Datum) (desk : HistoryDesk) :
    (announced logged command desk).history = desk.history := by
  cases logged with
  | true => rfl
  | false => rfl

theorem announced_commandsGiven (logged : Bool) (command : Datum) (desk : HistoryDesk) :
    (announced logged command desk).journal.commandsGiven = desk.journal.commandsGiven := by
  cases logged with
  | true => exact Journal.commandsGiven_log _ _ _ _
  | false => rfl

/-- A command for which the commands can be trimmed is given to the interpreter once, and what comes
of it is the outcome of the interpreter. -/
theorem execute_of_trim (interpret : Interpreter) {config : Config} {command : Datum}
    (desk : HistoryDesk) {logged : Bool} {kept : History}
    (flag : config.getTruth Config.logCommandsKey = .ok logged)
    (trimmed : (desk.history.push command).trim = .ok kept) :
    execute interpret config command desk = Act.ofExcept (interpret command)
      (evaluated interpret command
        ⟨kept, (announced logged command desk).journal.emit (.commandAdded (heard command))⟩) := by
  have recorded := add_of_trim_ok command (announced logged command desk)
    (by rw [announced_history]; exact trimmed)
  have evaluation (start : HistoryDesk) :
      (do
        emit (.interpreted command)
        match interpret command with
        | .ok result => return result
        | .error fault =>
            log .error s!"Command {command.display} failed: {fault.message}"
            throw fault : Act HistoryDesk String) start =
      Act.ofExcept (interpret command) (evaluated interpret command start) := by
    refine (Act.bind_of_ok _ (rfl : emit (.interpreted command) start = .ok () _)).trans ?_
    unfold evaluated
    cases interpret command with
    | ok result => rfl
    | error fault => rfl
  unfold execute
  rw [flag]
  cases logged with
  | true =>
      refine (Act.ofExcept_ok_bind _ _ _).trans ?_
      have ran : log .info s!"Running command: {command.display}" desk =
          .ok () (announced true command desk) := rfl
      refine (Act.bind_of_ok _ ran).trans ?_
      exact (Act.bind_of_ok _ recorded).trans (evaluation _)
  | false =>
      refine (Act.ofExcept_ok_bind _ _ _).trans ?_
      exact (Act.bind_of_ok _ recorded).trans (evaluation _)

theorem execute_of_untrimmed (interpret : Interpreter) {config : Config} {command : Datum}
    (desk : HistoryDesk) {logged : Bool} {fault : Fault}
    (flag : config.getTruth Config.logCommandsKey = .ok logged)
    (failed : (desk.history.push command).trim = .error fault) :
    execute interpret config command desk = .error fault
      ⟨desk.history.push command, (announced logged command desk).journal⟩ := by
  have stopped := add_of_trim_error command (announced logged command desk)
    (by rw [announced_history]; exact failed)
  rw [announced_history] at stopped
  unfold execute
  rw [flag]
  cases logged with
  | true =>
      refine (Act.ofExcept_ok_bind _ _ _).trans ?_
      have ran : log .info s!"Running command: {command.display}" desk =
          .ok () (announced true command desk) := rfl
      exact (Act.bind_of_ok _ ran).trans (Act.bind_of_error _ stopped)
  | false => exact (Act.ofExcept_ok_bind _ _ _).trans (Act.bind_of_error _ stopped)

theorem execute_eq (interpret : Interpreter) (config : Config) (command : Datum)
    (desk : HistoryDesk) (logged : Bool) (room : Nat)
    (flag : config.getTruth Config.logCommandsKey = .ok logged)
    (whole : desk.history.capacity.count? = some room) :
    execute interpret config command desk = Act.ofExcept (interpret command)
      (evaluated interpret command (added room command (announced logged command desk))) := by
  rw [execute_of_trim interpret desk flag (History.trim_eq (desk.history.push command) room whole),
    added, announced_history]
  rfl

/-- A command that was recorded in a history trimmed to its room, and given to the interpreter. -/
structure Recorded (command : Datum) (before after : HistoryDesk) : Prop where
  trimmed : (before.history.push command).trim = .ok after.history
  given : after.journal.commandsGiven = before.journal.commandsGiven ++ [command]

/-- What keeps a command from the interpreter: it is not settled whether commands are logged, or the
command is in a history that cannot be trimmed to its room. -/
inductive Halts (config : Config) (command : Datum) (before : HistoryDesk) :
    HistoryDesk → Fault → Prop
  | unsettled {fault : Fault}
      (flag : config.getTruth Config.logCommandsKey = .error fault) :
      Halts config command before before fault
  | untrimmed {after : HistoryDesk} {fault : Fault}
      (failed : (before.history.push command).trim = .error fault)
      (kept : after.history = before.history.push command)
      (given : after.journal.commandsGiven = before.journal.commandsGiven) :
      Halts config command before after fault

theorem Halts.commandsGiven {config : Config} {command : Datum} {before after : HistoryDesk}
    {fault : Fault} (halts : Halts config command before after fault) :
    after.journal.commandsGiven = before.journal.commandsGiven := by
  cases halts with
  | unsettled flag => rfl
  | untrimmed failed kept given => exact given

/-- Where the settings define whether commands are logged and the history has room for a whole
number of commands, nothing keeps a command from the interpreter. -/
theorem Halts.not_whole {config : Config} {command : Datum} {before after : HistoryDesk}
    {fault : Fault} (halts : Halts config command before after fault)
    (defined : Config.logCommandsKey ∈ config.keys) :
    before.history.capacity.count? = none := by
  cases halts with
  | unsettled flag =>
      obtain ⟨truth, settled⟩ := config.getTruth_of_mem_keys _ defined
      cases settled.symm.trans flag
  | untrimmed failed kept given =>
      cases whole : before.history.capacity.count? with
      | none => rfl
      | some room =>
        cases (History.trim_eq (before.history.push command) room whole).symm.trans failed

/-- A command is recorded and given to the interpreter once, and what comes of it is the outcome
of the interpreter; or something keeps it from there. -/
theorem execute_cases (interpret : Interpreter) (config : Config) (command : Datum)
    (desk : HistoryDesk) :
    (∃ after, execute interpret config command desk = Act.ofExcept (interpret command) after ∧
        Recorded command desk after) ∨
      ∃ fault after, execute interpret config command desk = .error fault after ∧
        Halts config command desk after fault := by
  cases flag : config.getTruth Config.logCommandsKey with
  | error fault =>
      refine .inr ⟨fault, desk, ?_, .unsettled flag⟩
      unfold execute
      rw [flag]
      rfl
  | ok logged =>
      cases trimmed : (desk.history.push command).trim with
      | ok kept =>
          refine .inl ⟨_, execute_of_trim interpret desk flag trimmed, ?_, ?_⟩
          · rw [evaluated_history, trimmed]
          · simp only [evaluated_commandsGiven, Journal.commandsGiven_commandAdded,
              announced_commandsGiven]
      | error fault =>
          exact .inr ⟨fault, _, execute_of_untrimmed interpret desk flag trimmed,
            .untrimmed trimmed rfl (announced_commandsGiven logged command desk)⟩

end HistoryDesk

end ScriptCatalog
