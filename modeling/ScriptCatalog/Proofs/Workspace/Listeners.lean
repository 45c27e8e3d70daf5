import Mathlib.Order.Nat
import ScriptCatalog.Proofs.Runner.Recording
import ScriptCatalog.Proofs.Workspace.Parts

/-! Functions of others that are connected to settings. They can do anything, so that what they are
taken not to do is said here. Discreet ones leave settings and files as they are, whether they fail
or not. Harmless ones never fail, and leave histories and runners as they are as well. What settings
do themselves when they change is discreet: a change is recorded, or a history takes the value for
its capacity. -/

namespace ScriptCatalog

namespace Workspace

/-- All settings and files are as they were, and no history is gone. -/
structure Around (space after : Workspace) : Prop where
  configs : after.configs = space.configs
  files : after.files = space.files
  shared : after.shared = space.shared
  histories : space.histories.length ≤ after.histories.length

instance : IsPreorder Workspace Around where
  refl _ := ⟨rfl, rfl, rfl, le_rfl⟩
  trans _ _ _ left right := ⟨right.configs.trans left.configs, right.files.trans left.files,
    right.shared.trans left.shared, left.histories.trans right.histories⟩

/-- Settings, files, histories and runners are as they were, and no command was given. -/
structure Aside (space after : Workspace) : Prop where
  configs : after.configs = space.configs
  files : after.files = space.files
  shared : after.shared = space.shared
  histories : after.histories = space.histories
  runners : after.runners = space.runners
  commands : after.journal.commandsGiven = space.journal.commandsGiven

theorem aside_refl (space : Workspace) : Aside space space := ⟨rfl, rfl, rfl, rfl, rfl, rfl⟩

theorem Aside.around {space after : Workspace} (aside : Aside space after) : Around space after :=
  ⟨aside.configs, aside.files, aside.shared, (congrArg List.length aside.histories).ge⟩

namespace Listeners

def Discreet (listeners : Listeners) : Prop :=
  ∀ number value, (listeners number value).Moves Around

def Harmless (listeners : Listeners) : Prop :=
  ∀ number value space, ∃ after, listeners number value space = .ok () after ∧ Aside space after

theorem Harmless.discreet {listeners : Listeners} (harmless : listeners.Harmless) :
    listeners.Discreet := by
  intro number value space
  obtain ⟨after, ran, aside⟩ := harmless number value space
  rw [Act.after_of_ok ran]
  exact aside.around

theorem harmless_silent : Listeners.Harmless silent :=
  fun _ _ space => ⟨space, rfl, aside_refl space⟩

end Listeners

variable {listeners : Listeners}

/-! Telling a connection. -/

theorem around_notify (discreet : listeners.Discreet) (notice : Notice) :
    (notify listeners notice).Moves Around := by
  intro space
  unfold notify
  cases notice.connection.callback with
  | recorder takesValue => exact ⟨rfl, rfl, rfl, le_rfl⟩
  | capacity history =>
      dsimp only
      -- A history that is not there is an error, and one that is there keeps its place.
      cases there : space.histories[history]? with
      | none =>
          rw [Act.after_of_error (onHistory_absent _ there)]
          exact refl_of Around space
      | some held =>
          rw [Act.after_of_eq_on (onHistory_eq _ there)]
          exact ⟨rfl, rfl, rfl, List.length_set.ge⟩
  | foreign number takesValue => exact discreet number _ space

theorem around_notifyAll (discreet : listeners.Discreet) (notices : List Notice) :
    (notifyAll listeners notices).Moves Around := by
  induction notices with
  | nil => exact (Act.reads_pure ()).moves
  | cons notice notices ih => exact (around_notify discreet notice).bind fun _ => ih

end Workspace

end ScriptCatalog
