import ScriptCatalog.Proofs.Command.ReadBack
import ScriptCatalog.Proofs.History.Newest
import ScriptCatalog.Proofs.Runner.Noninteractive
import ScriptCatalog.Proofs.Script.Agreement
import ScriptCatalog.Proofs.Script.Binding

/-! Running a script again. A run with the last values, or one that no dialog interrupts, gives the
interpreter the command of the run without interaction before it, but for brushes passed by name,
unless its history cannot be trimmed to its room. -/

namespace ScriptCatalog

namespace RunDesk

section

variable [Platform]

/-- An action that gives one command to the interpreter, whatever comes of that. -/
def Gives (act : Act RunDesk (Option String)) (before after : RunDesk) (command : String) : Prop :=
  ((∃ result, act before = .ok (some result) after) ∨ ∃ fault, act before = .error fault after) ∧
    after.record.journal.commandsGiven =
      before.record.journal.commandsGiven ++ [.text command]

/-- An invocation that has nothing but a run mode, or after it what another one has. -/
def InvokedAgain (invocation again : Invocation) (mode : RunMode) : Prop :=
  ∃ head rest, again.sequence? = some (head :: rest) ∧ RunMode.ofDatum head = .ok mode ∧
    (rest = [] ∨ ∃ items, invocation.sequence? = some items ∧ rest = items.tail)

theorem gives_of_outcome {act : Act RunDesk (Option String)} {before after : RunDesk}
    {command : String} (outcome : Except Fault String)
    (ran : act before = Act.ofExcept (some <$> outcome) after)
    (given : after.record.journal.commandsGiven =
      before.record.journal.commandsGiven ++ [.text command]) : Gives act before after command := by
  refine ⟨?_, given⟩
  cases outcome with
  | ok result => exact .inl ⟨result, ran⟩
  | error fault => exact .inr ⟨fault, ran⟩

theorem InvokedAgain.itemAt_eq {invocation again : Invocation} {mode : RunMode}
    (invoked : InvokedAgain invocation again mode) {index : Nat} {param : Datum}
    (found : again.itemAt (index + 1) = .ok param) :
    invocation.itemAt (index + 1) = .ok param := by
  obtain ⟨head, rest, listed, _, passed⟩ := invoked
  obtain ⟨_, given, inside⟩ := (itemAt_eq_ok_iff _ _ _).mp found
  rw [Script.itemsByPosition_of_sequence listed] at given
  cases given
  rw [List.getElem?_cons_succ] at inside
  rcases passed with rfl | ⟨items, listedFirst, rfl⟩
  · cases inside
  · rw [itemAt_eq_ok_iff]
    refine ⟨items, Script.itemsByPosition_of_sequence listedFirst _, ?_⟩
    rwa [List.getElem?_tail] at inside

theorem boundAlready_of_holdParams {types : EnumTypes} {invocation again : Invocation}
    {arguments stored : List Argument} {mode : RunMode}
    (holds : HoldParams types invocation arguments stored)
    (invoked : InvokedAgain invocation again mode) : Script.BoundAlready again stored := by
  intro index inside param id found bound
  obtain ⟨sameLength, each⟩ := holds
  have within : index < arguments.length := by omega
  obtain ⟨passed, value, foundFirst, updated, held⟩ :=
    each index arguments[index] (List.getElem?_eq_getElem within)
  have foundAgain := invoked.itemAt_eq found
  rw [foundFirst] at foundAgain
  cases foundAgain
  rw [List.getElem?_eq_getElem inside, Option.some.injEq] at held
  rw [held] at bound ⊢
  exact assign_bound updated bound

theorem runCommand_stored {dialog : Option ArgumentDialog} (types : EnumTypes)
    {precision : Precision} {invocation : Invocation} {desk : RunDesk} {mode : RunMode}
    {command : String} (undisturbed : mode = .withLastValues ∨ mode = .interactive ∧ dialog = none)
    (bound : Script.Keeps (Script.bindStandard invocation) desk.script)
    (rendered : Script.command precision desk.script = .ok command desk.script) :
    runCommand dialog types precision invocation mode desk = .ok (some command) desk := by
  obtain ⟨count, ran⟩ := bound
  have binding : onScript (Script.bindStandard invocation) desk = .ok count desk :=
    onScript_of_ok ran
  have rendering : onScript (Script.command precision) desk = .ok command desk :=
    onScript_of_ok rendered
  rcases undisturbed with rfl | ⟨rfl, rfl⟩
  · refine (Act.bind_of_ok _ binding).trans ?_
    exact Act.bind_of_ok (fun command => pure (some command)) rendering
  · refine (Act.bind_of_ok _ binding).trans ?_
    have consulted : consult none types count desk = .ok true desk := rfl
    refine (Act.bind_of_ok _ consulted).trans ?_
    exact Act.bind_of_ok (fun command => pure (some command)) rendering

/-- What comes of executing the command that a run has made of a script: it is given to the
interpreter, or something keeps it from there and the run fails. -/
def Reruns (config : Config) (act : Act RunDesk (Option String)) (before after : RunDesk)
    (command : String) : Prop :=
  Gives act before after command ∨
    ¬Usable config before ∧ ∃ fault, act before = .error fault after ∧
      HistoryDesk.Halts config (.text command) before.record after.record fault

/-- A run that binds nothing new has the command of the script to execute. -/
theorem run_eq_execute_stored (interpret : Interpreter) (dialog : Option ArgumentDialog)
    (types : EnumTypes) (config : Config) {precision : Precision} {invocation : Invocation}
    {desk : RunDesk} {items : List Datum} {head : Datum} {mode : RunMode} {profile : Profile}
    {arguments : List Argument} {name command : String}
    (undisturbed : mode = .withLastValues ∨ mode = .interactive ∧ dialog = none)
    (given : config.getPrecision = .ok precision)
    (listed : invocation.sequence? = some (head :: items))
    (moded : RunMode.ofDatum head = .ok mode)
    (complete : desk.script = .ofArguments profile arguments) (named : profile.name = .text name)
    (bound : Script.Keeps (Script.bindStandard invocation) desk.script)
    (rendered : Script.command precision desk.script = .ok command desk.script) :
    run interpret dialog types config invocation desk =
      (onRecord (HistoryDesk.execute interpret config (.text command)) >>= fun result =>
        pure (some result) : Act RunDesk (Option String)) desk := by
  obtain ⟨sized, itemAt⟩ := Script.sequence_ok listed
  have there : Act.require (!invocation.isNull) .missingRunMode desk = .ok () desk := by
    cases invocation <;> cases listed <;> rfl
  have moded : (do RunMode.ofDatum (← invocation.itemAt 0)) = .ok mode := by
    rw [itemAt 0 (by simp)]
    exact moded
  have told : onScript Script.name desk = .ok (.text name) desk := by
    refine onScript_of_ok ?_
    rw [complete]
    exact Script.told_text (·.name) named
  unfold run
  rw [sized, moded, given]
  refine (Act.bind_of_ok _ there).trans ?_
  refine (Act.ofExcept_ok_bind _ _ _).trans ?_
  refine (Act.bind_of_ok _ (rfl : Act.require true .missingRunMode desk = .ok () desk)).trans ?_
  refine (Act.ofExcept_ok_bind _ _ _).trans ?_
  refine (Act.ofExcept_ok_bind _ _ _).trans ?_
  refine (Act.bind_of_ok _ told).trans ?_
  exact Act.bind_of_ok _ (runCommand_stored types undisturbed bound rendered)

theorem reruns_of_execute (interpret : Interpreter) (config : Config) (desk : RunDesk)
    {act : Act RunDesk (Option String)} {command : String}
    (ran : act desk = (onRecord (HistoryDesk.execute interpret config (.text command)) >>=
      fun result => pure (some result) : Act RunDesk (Option String)) desk) :
    ∃ after, Reruns config act desk after command ∧ after.script = desk.script := by
  rcases HistoryDesk.execute_cases interpret config (.text command) desk.record with
    ⟨record, executed, recorded⟩ | ⟨fault, record, failed, halts⟩
  · exact ⟨{ desk with record }, .inl (gives_of_outcome (interpret (.text command))
      (ran.trans (execute_some executed)) recorded.given), rfl⟩
  · refine ⟨{ desk with record }, .inr ⟨?_, fault, ?_, halts⟩, rfl⟩
    · rintro ⟨defined, room, whole⟩
      cases (halts.not_whole defined).symm.trans whole
    · exact ran.trans (Act.bind_of_error _ (onRecord_of_error failed))

theorem executed_of_gives {interpret : Interpreter} {dialog : Option ArgumentDialog}
    {types : EnumTypes} {config : Config} {precision : Precision} {invocation : Invocation}
    {before after : RunDesk} {command : String} (given : config.getPrecision = .ok precision)
    (mode : (do RunMode.ofDatum (← invocation.itemAt 0)) = .ok .noninteractive)
    (gives : Gives (run interpret dialog types config invocation) before after command) :
    Executed types precision invocation before after command := by
  obtain ⟨ended, commands⟩ := gives
  -- A run that gave no command would have failed.
  have failed {fault : Fault} {final : RunDesk}
      (stopped : run interpret dialog types config invocation before = .error fault final)
      (same : final.record.journal.commandsGiven = before.record.journal.commandsGiven) :
      False := by
    rw [stopped] at ended
    have unchanged : after = final := by
      rcases ended with ⟨_, ended⟩ | ⟨_, ended⟩ <;> cases ended
      rfl
    have counted := congrArg List.length (commands.symm.trans (unchanged ▸ same))
    rw [List.length_append, List.length_singleton] at counted
    omega
  rcases run_noninteractive interpret dialog types config invocation before mode with
    ⟨fault, stopped⟩ | ⟨other, rendered, sameGiven, ⟨final, executed, ran⟩ |
      ⟨final, fault, _, halts, stopped⟩⟩
  · exact (failed stopped rfl).elim
  · rw [given] at sameGiven
    cases sameGiven
    have sameEnd : final = after := by
      rw [ran] at ended
      refine Act.ofExcept_state (ended.imp_left ?_)
      rintro ⟨result, ended⟩
      exact ⟨some result, ended⟩
    subst sameEnd
    rw [executed.given] at commands
    have sameCommand : rendered = command := by simpa using commands
    rw [← sameCommand]
    exact executed
  · exact (failed stopped halts.commandsGiven).elim

end

def brushArguments : List Argument :=
  [{ kind := .brush, label := .text "B", default := .brush .null (.real .one) (.int 20) (.int 0)
     value := .brush .null (.real .one) (.int 20) (.int 0) }]

theorem storedTokens_brush : ∃ tokens, storedTokens (.places 6) brushArguments = .ok tokens := by
  have spacing : isShort 20 = true := isShort_of_natAbs_lt (by decide)
  have paintMode : isShort 0 = true := isShort_of_natAbs_lt (by decide)
  have short : ∀ argument ∈ brushArguments, argument.value.hasFewDigits = true := by
    refine List.forall_mem_singleton.mpr ?_
    change (isShort 20 && isShort 0) = true
    rw [spacing, paintMode, Bool.and_self]
  have can : CanWrite 6 brushArguments := ⟨.inl ⟨by decide, by decide⟩, short⟩
  obtain ⟨words, tokens⟩ := storedTokens_of_canWrite (List.forall_mem_singleton.mpr rfl)
    (List.forall_mem_singleton.mpr rfl) can
  exact ⟨_, tokens⟩

def brushDesk : RunDesk := { sample with script := .ofArguments (.plain "s") brushArguments }

end RunDesk

end ScriptCatalog
