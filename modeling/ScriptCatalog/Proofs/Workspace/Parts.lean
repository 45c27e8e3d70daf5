import ScriptCatalog.Proofs.Act
import ScriptCatalog.Workspace

/-! Actions on one part of everything there is: a script, a script with the history of a runner, a
history, settings, a table. Where the part is there all the rest stays as it is, and where it is not
nothing is done. -/

namespace ScriptCatalog

namespace Workspace

variable {α : Type} {space : Workspace}

section

variable {id : ScriptId} (act : ScriptAct α)

theorem onScript_absent (absent : space.scripts[id]? = none) :
    onScript id act space = .error .absentObject space := by
  simp only [onScript, absent]

theorem onScript_eq {script : Script} (there : space.scripts[id]? = some script) :
    onScript id act space =
      act.on (fun _ => script)
        (fun changed space => { space with scripts := space.scripts.set id changed }) space := by
  simp only [onScript, there, Act.on]
  cases act script with
  | ok value changed => rfl
  | error fault changed => rfl

end

section

variable {id number : Nat} (act : Act RunDesk α)

theorem onRun_absent (absent : space.scripts[id]? = none ∨ space.histories[number]? = none) :
    onRun id number act space = .error .absentObject space := by
  rcases absent with there | kept
  · simp only [onRun, there]
  · cases there : space.scripts[id]? with
    | none => simp only [onRun, there]
    | some script => simp only [onRun, there, kept]

theorem onRun_eq {script : Script} {history : History} (there : space.scripts[id]? = some script)
    (kept : space.histories[number]? = some history) :
    onRun id number act space =
      act.on (fun space => ⟨script, ⟨history, space.journal⟩⟩)
        (fun desk space => { space with
          scripts := space.scripts.set id desk.script
          histories := space.histories.set number desk.record.history
          journal := desk.record.journal }) space := by
  simp only [onRun, there, kept, Act.on]
  cases act ⟨script, ⟨history, space.journal⟩⟩ with
  | ok value desk => rfl
  | error fault desk => rfl

end

section

variable {number : Nat} (act : Act HistoryDesk α)

theorem onHistory_absent (absent : space.histories[number]? = none) :
    onHistory number act space = .error .absentObject space := by
  simp only [onHistory, absent]

theorem onHistory_eq {history : History} (kept : space.histories[number]? = some history) :
    onHistory number act space =
      act.on (fun space => ⟨history, space.journal⟩)
        (fun desk space => { space with
          histories := space.histories.set number desk.history
          journal := desk.journal }) space := by
  simp only [onHistory, kept, Act.on]
  cases act ⟨history, space.journal⟩ with
  | ok value desk => rfl
  | error fault desk => rfl

end

section

variable {number : Nat} (act : Act ConfigDesk α)

theorem onConfig_absent (absent : space.configs[number]? = none) :
    onConfig number act space = .error .absentObject space := by
  simp only [onConfig, absent]

theorem onConfig_eq {config : Config} (configured : space.configs[number]? = some config) :
    onConfig number act space =
      act.on (fun space => ⟨config, space.files, space.journal⟩)
        (fun desk space => { space with
          configs := space.configs.set number desk.config
          files := desk.files
          journal := desk.journal }) space := by
  simp only [onConfig, configured, Act.on]
  cases act ⟨config, space.files, space.journal⟩ with
  | ok value desk => rfl
  | error fault desk => rfl

variable {act} {config : Config}

theorem onConfig_of_ok {given : α} {desk : ConfigDesk}
    (there : space.configs[number]? = some config)
    (ran : act ⟨config, space.files, space.journal⟩ = .ok given desk) :
    onConfig number act space = .ok given { space with
      configs := space.configs.set number desk.config
      files := desk.files
      journal := desk.journal } := by
  rw [onConfig_eq _ there, Act.on, ran]

/-- What fails without changing settings or files changes nothing. -/
theorem onConfig_of_error {fault : Fault} (there : space.configs[number]? = some config)
    (failed : act ⟨config, space.files, space.journal⟩ =
      .error fault ⟨config, space.files, space.journal⟩) :
    onConfig number act space = .error fault space := by
  rw [onConfig_eq _ there, Act.on, failed]
  dsimp only
  rw [set_of_getElem? there]

end

section

variable {table : Nat} (act : Act Catalog α)

theorem onTable_absent (absent : space.tables[table]? = none) :
    onTable table act space = .error .absentObject space := by
  simp only [onTable, absent]

theorem onTable_eq {inUse : TableInUse} (there : space.tables[table]? = some inUse) :
    onTable table act space =
      act.on (fun space => space.catalog inUse)
        (fun catalog space => { takeBack inUse catalog space with
          tables := space.tables.set table { inUse with table := catalog.table } }) space := by
  simp only [onTable, there, Act.on]
  cases act (space.catalog inUse) with
  | ok value catalog => rfl
  | error fault catalog => rfl

end

end Workspace

end ScriptCatalog
