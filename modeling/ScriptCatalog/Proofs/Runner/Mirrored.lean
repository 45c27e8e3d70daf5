import ScriptCatalog.Proofs.Runner.Holding

/-! Histories beside what the interpreter was given. A history that holds the latest of some
commands goes on to hold the latest of them and of those that are given next. -/

namespace ScriptCatalog

variable [Platform]

/-! Histories. -/

/-- A history that holds the latest of some commands, with room for so many. -/
structure History.Mirrors (history : History) (given : List Datum) (count : Int) : Prop where
  suffix : history.commands <:+ given
  nonempty : given ≠ [] → history.commands ≠ []
  capacity : history.capacity = .int count
  fits : (history.commands.length : Int) ≤ count
  /-- There is a command in each place, so that the last one can be repeated. -/
  present : .null ∉ given

namespace History

variable {history : History} {given : List Datum} {count : Int}

theorem isPositive_int_iff (count : Int) : (Scalar.int count).isPositive = true ↔ 0 < count := by
  simp [Scalar.isPositive]

theorem positive_of_capacity (capacity : history.capacity = .int count) : 0 < count := by
  have positive := history.capacity_pos
  rw [capacity] at positive
  exact (isPositive_int_iff count).mp positive

theorem whole_of_capacity (capacity : history.capacity = .int count) :
    history.capacity.count? = some count.toNat := by
  rw [capacity]
  rfl

/-- Dropping the oldest of some commands leaves the latest. -/
theorem mirrors_newest {commands : List Datum} (capacity : history.capacity = .int count)
    (suffix : commands <:+ given) (nonempty : given ≠ [] → commands ≠ [])
    (present : .null ∉ given) :
    Mirrors { history with commands := newest count.toNat commands } given count where
  suffix := (List.drop_suffix _ _).trans suffix
  nonempty some := by
    have positive := positive_of_capacity capacity
    have length := List.length_pos_iff.mpr (nonempty some)
    rw [← List.length_pos_iff, newest, List.length_drop]
    omega
  capacity := capacity
  fits := by
    have positive := positive_of_capacity capacity
    have room := length_newest_le count.toNat commands
    change ((newest count.toNat commands).length : Int) ≤ count
    omega
  present := present

theorem Mirrors.add (mirrors : history.Mirrors given count) {command : Datum}
    (there : command ≠ .null) :
    Mirrors { history with commands := newest count.toNat (history.commands ++ [command]) }
      (given ++ [command]) count := by
  refine mirrors_newest mirrors.capacity ?_ (fun _ => List.append_ne_nil_of_right_ne_nil _ nofun) ?_
  · obtain ⟨earlier, rfl⟩ := mirrors.suffix
    exact ⟨earlier, (List.append_assoc _ _ _).symm⟩
  · intro absent
    rcases List.mem_append.mp absent with before | last
    · exact mirrors.present before
    · exact there (List.mem_singleton.mp last).symm

theorem Mirrors.clear (mirrors : history.Mirrors given count) :
    history.clear.Mirrors [] count where
  suffix := List.suffix_rfl
  nonempty some := absurd rfl some
  capacity := mirrors.capacity
  fits := by
    have positive := positive_of_capacity mirrors.capacity
    change (0 : Int) ≤ count
    omega
  present := List.not_mem_nil

/-- The last command of the history is the last that was given. -/
theorem Mirrors.last?_eq (mirrors : history.Mirrors given count) :
    history.last? = given.getLast? := by
  obtain ⟨earlier, same⟩ := mirrors.suffix
  cases none : history.commands with
  | nil =>
      have nothing : given = [] := by
        by_contra some
        exact mirrors.nonempty some none
      rw [last?, none, nothing]
  | cons first rest =>
      rw [last?, ← same, none, List.getLast?_append_of_ne_nil _ (List.cons_ne_nil _ _)]

end History

/-! What a runner does with a history. -/

namespace HistoryDesk

variable {given : List Datum} {count : Int} {desk : HistoryDesk}

/-- However a desk is left, its history holds the latest of the commands before and of those that
were given since. -/
def GoesOn (given : List Datum) (count : Int) (desk after : HistoryDesk) : Prop :=
  ∃ commands, after.journal.commandsGiven = desk.journal.commandsGiven ++ commands ∧
    after.history.Mirrors (given ++ commands) count

theorem mirrors_execute {config : Config} {command : Datum}
    (mirrors : desk.history.Mirrors given count) (there : command ≠ .null)
    (defined : Config.logCommandsKey ∈ config.keys) (interpret : Interpreter) :
    ∃ after : HistoryDesk,
      execute interpret config command desk = Act.ofExcept (interpret command) after ∧
        after.history.Mirrors (given ++ [command]) count ∧
        after.journal.commandsGiven = desk.journal.commandsGiven ++ [command] := by
  obtain ⟨logged, flag⟩ := config.getTruth_of_mem_keys _ defined
  have whole := History.whole_of_capacity mirrors.capacity
  have ran := execute_eq interpret config command desk logged _ flag whole
  refine ⟨_, ran, ?_, ?_⟩
  · rw [evaluated_history, added, announced_history]
    exact mirrors.add there
  · rw [evaluated_commandsGiven]
    simp only [added, Journal.commandsGiven_commandAdded, announced_commandsGiven]

/-- Where no command was given there is none to repeat. -/
theorem executeLast_of_none (mirrors : desk.history.Mirrors given count)
    (none : given.getLast? = none) (interpret : Interpreter) (config : Config) :
    executeLast interpret config desk = .error .nothingToRepeat desk := by
  rw [executeLast, Act.get_bind, mirrors.last?_eq, none]
  rfl

/-- The last command that was given is repeated. -/
theorem executeLast_of_some {command : Datum} (mirrors : desk.history.Mirrors given count)
    (last : given.getLast? = some command) (interpret : Interpreter) (config : Config) :
    executeLast interpret config desk = execute interpret config command desk := by
  have there : command ≠ .null := by
    rintro rfl
    exact mirrors.present (List.mem_of_getLast? last)
  rw [executeLast, Act.get_bind, mirrors.last?_eq, last]
  cases command with
  | null => exact absurd rfl there
  | _ => rfl

/-- A positive whole number is taken as the capacity, and of the commands the latest stay. -/
theorem setCapacity_int {next : Int} (positive : 0 < next) (desk : HistoryDesk) :
    ∃ history : History, setCapacity (.int next) desk = .ok () { desk with history } ∧
      ∀ given count, desk.history.Mirrors given count → history.Mirrors given next := by
  have roomy : (Scalar.int next).isPositive = true := (History.isPositive_int_iff next).mpr positive
  let resized : History := ⟨desk.history.commands, .int next, roomy⟩
  have taken : History.ofCommands desk.history.commands (.int next) = .ok resized := dif_pos roomy
  refine ⟨_, setCapacity_of_taken taken rfl, fun given count mirrors => ?_⟩
  exact History.mirrors_newest rfl mirrors.suffix mirrors.nonempty mirrors.present

end HistoryDesk

/-! Runs. -/

namespace RunDesk

variable {α : Type}

/-- Whatever happened, nothing was recorded and no command was given. -/
structure Unrecorded (before after : RunDesk) : Prop where
  history : after.record.history = before.record.history
  commands : after.record.journal.commandsGiven = before.record.journal.commandsGiven

instance : IsPreorder RunDesk Unrecorded where
  refl _ := ⟨rfl, rfl⟩
  trans _ _ _ left right :=
    ⟨right.history.trans left.history, right.commands.trans left.commands⟩

theorem unrecorded_onScript (act : ScriptAct α) : (onScript act).Moves Unrecorded := by
  intro desk
  rw [onScript, Act.after_on]
  exact ⟨rfl, rfl⟩

theorem unrecorded_dialogOpened (script : Datum) (bound : Nat) :
    (onRecord (HistoryDesk.emit (.dialogOpened script bound))).Moves Unrecorded := fun desk =>
  ⟨rfl, desk.record.journal.commandsGiven_dialogOpened script bound⟩

theorem unrecorded_log (level : Level) (text : String) :
    (onRecord (HistoryDesk.log level text)).Moves Unrecorded := fun desk =>
  ⟨rfl, desk.record.journal.commandsGiven_log level .runner text⟩

theorem unrecorded_consult (dialog : Option ArgumentDialog) (types : EnumTypes) (bound : Nat) :
    (consult dialog types bound).Moves Unrecorded := by
  refine Act.reads_get.moves.bind fun desk => ?_
  cases dialog with
  | none => exact (Act.reads_pure true).moves
  | some chosen =>
      by_cases left : bound < desk.script.size
      · simp only [left, if_true]
        refine (unrecorded_onScript Script.name).bind fun name => ?_
        exact (unrecorded_dialogOpened name bound).bind fun _ => unrecorded_onScript _
      · simp only [left, if_false]
        exact (Act.reads_pure true).moves

/-- Until a run has its command nothing is recorded. -/
theorem unrecorded_runCommand (dialog : Option ArgumentDialog) (types : EnumTypes)
    (precision : Precision) (invocation : Invocation) (mode : RunMode) :
    (runCommand dialog types precision invocation mode).Moves Unrecorded := by
  have renders : (do return some (← onScript (Script.command precision))).Moves Unrecorded :=
    (unrecorded_onScript _).bind fun _ => (Act.reads_pure _).moves
  cases mode with
  | interactive =>
      refine (unrecorded_onScript _).bind fun bound => ?_
      refine (unrecorded_consult dialog types bound).bind fun accepted => ?_
      cases accepted with
      | true => exact renders
      | false =>
          refine (unrecorded_onScript _).bind fun name => ?_
          exact (unrecorded_log _ _).bind fun _ => (Act.reads_pure none).moves
  | noninteractive =>
      refine Act.reads_get.moves.bind fun desk => ?_
      refine (Act.reads_ofExcept _).moves.bind fun found => ?_
      have runs := (unrecorded_onScript (Script.passedCommand types precision invocation)).bind
        fun command => (unrecorded_onScript (Script.storeParams types invocation)).bind
          fun _ => (Act.reads_pure (some command)).moves
      by_cases whole : found = desk.script.size + 1
      · simp only [whole, ne_eq, not_true_eq_false, if_false]
        exact runs
      · simp only [whole, ne_eq, not_false_eq_true, if_true]
        exact (unrecorded_onScript _).bind fun name => (Act.reads_throw_bind _ _).moves
  | withLastValues => exact (unrecorded_onScript _).bind fun _ => renders

/-- What can come of a run: it is cancelled or fails with nothing recorded, or one command is given
and the outcome is that of the interpreter. -/
def CancelsOrExecutes (interpret : Interpreter) (act : Act RunDesk (Option String))
    (desk : RunDesk) : Prop :=
  (Unrecorded desk (act.after desk) ∧
      (act.outcome desk = .ok none ∨ ∃ fault, act.outcome desk = .error fault)) ∨
    ∃ command, act.outcome desk = some <$> interpret (.text command) ∧
      (act.after desk).record.journal.commandsGiven =
        desk.record.journal.commandsGiven ++ [.text command]

theorem Unrecorded.goesOn {given : List Datum} {count : Int} {desk after : RunDesk}
    (unrecorded : Unrecorded desk after) (mirrors : desk.record.history.Mirrors given count) :
    desk.record.GoesOn given count after.record := by
  refine ⟨[], ?_, ?_⟩
  · rw [unrecorded.commands, List.append_nil]
  · rw [unrecorded.history, List.append_nil]
    exact mirrors

theorem run_goesOn {config : Config} {given : List Datum} {count : Int} {desk : RunDesk}
    (mirrors : desk.record.history.Mirrors given count)
    (defined : Config.logCommandsKey ∈ config.keys) (interpret : Interpreter)
    (dialog : Option ArgumentDialog) (types : EnumTypes) (invocation : Invocation) :
    CancelsOrExecutes interpret (run interpret dialog types config invocation) desk ∧
      desk.record.GoesOn given count
        ((run interpret dialog types config invocation).after desk).record := by
  rw [run_eq]
  have unrecordedEnd {after : RunDesk} {act : Act RunDesk (Option String)}
      (unrecorded : Unrecorded desk after) (final : act.after desk = after)
      (outcome : act.outcome desk = .ok none ∨ ∃ fault, act.outcome desk = .error fault) :
      CancelsOrExecutes interpret act desk ∧
        desk.record.GoesOn given count (act.after desk).record := by
    cases final
    exact ⟨.inl ⟨unrecorded, outcome⟩, unrecorded.goesOn mirrors⟩
  rcases reads_opening config invocation desk with ⟨⟨mode, precision⟩, opens⟩ | ⟨fault, failed⟩
  · have unrecorded := unrecorded_runCommand dialog types precision invocation mode desk
    have proceeds := Act.bind_of_ok (fun opened : RunMode × Precision =>
      proceed interpret dialog types config invocation opened.1 opened.2) opens
    cases ran : runCommand dialog types precision invocation mode desk with
    | error fault between =>
        rw [Act.after_of_error ran] at unrecorded
        have went := proceeds.trans (Act.bind_of_error _ ran)
        exact unrecordedEnd unrecorded (Act.after_of_error went)
          (.inr ⟨fault, Act.outcome_of_error went⟩)
    | ok command between =>
        rw [Act.after_of_ok ran] at unrecorded
        have went := proceeds.trans (Act.bind_of_ok _ ran)
        cases command with
        | none =>
            exact unrecordedEnd unrecorded (Act.after_of_ok went) (.inl (Act.outcome_of_ok went))
        | some command =>
            have there : Datum.text command ≠ .null := nofun
            have still : between.record.history.Mirrors given count :=
              unrecorded.history ▸ mirrors
            obtain ⟨record, executed, after, commands⟩ :=
              HistoryDesk.mirrors_execute still there defined interpret
            obtain ⟨outcome, final⟩ :=
              Act.outcome_of_ofExcept (went.trans (execute_some executed))
            rw [unrecorded.commands] at commands
            refine ⟨.inr ⟨command, outcome, ?_⟩, ?_⟩
            · rw [final]
              exact commands
            · rw [final]
              exact ⟨[.text command], commands, after⟩
  · have went := Act.bind_of_error (fun opened : RunMode × Precision =>
      proceed interpret dialog types config invocation opened.1 opened.2) failed
    exact unrecordedEnd (refl_of Unrecorded desk) (Act.after_of_error went)
      (.inr ⟨fault, Act.outcome_of_error went⟩)

end RunDesk

end ScriptCatalog
