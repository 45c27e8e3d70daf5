import ScriptCatalog.Proofs.Keyed
import ScriptCatalog.Proofs.Argument.Carried
import ScriptCatalog.Proofs.Runner.Hosted
import ScriptCatalog.Proofs.Script.Registered
import ScriptCatalog.Proofs.Workspace.Parts

/-! What operations on a workspace keep of its scripts: that every selection was among its choices
when it was made. -/

namespace ScriptCatalog

variable [Platform]

/-! Names of enumerations. -/

namespace EnumTypes

variable {types registered : EnumTypes} {name : Datum} {nicks : List String}

theorem nicks?_eq_ok {found : Option (List String)} (looked : types.nicks? name = .ok found) :
    name.expectHashable = .ok () ∧
      found = if name.holdsNan then none else types.entries.lookup name := by
  obtain ⟨_, hashed, same⟩ := (Except.bind_eq_ok _ _ _).mp looked
  cases same
  exact ⟨hashed, rfl⟩

theorem nicks?_of_register {other : Datum} {values : List String}
    (given : types.register other values = .ok registered)
    (looked : types.nicks? name = .ok (some nicks)) :
    ∃ later, registered.nicks? name = .ok (some later) := by
  have entries : registered.entries = putField other values types.entries := by
    unfold register at given
    cases empty : values.isEmpty with
    | true =>
        rw [empty] at given
        cases given
    | false =>
        rw [empty] at given
        obtain ⟨_, _, same⟩ := (Except.bind_eq_ok _ _ _).mp given
        cases same
        rfl
  obtain ⟨hashed, found⟩ := nicks?_eq_ok looked
  cases nan : name.holdsNan with
  | true =>
      rw [nan] at found
      cases found
  | false =>
      simp only [nan] at found
      have held : ∃ later, registered.entries.lookup name = some later := by
        rw [entries, lookup_putField]
        cases name == other with
        | true => exact ⟨values, rfl⟩
        | false => exact ⟨nicks, found.symm⟩
      obtain ⟨later, held⟩ := held
      refine ⟨later, ?_⟩
      rw [nicks?, hashed, nan, held]
      rfl

end EnumTypes

/-! Scripts whose selections were once inside. -/

namespace Script

variable {known : EnumTypes → Prop} {script after : Script}

/-- A script whose arguments have defaults and values of their form, with selections that were among
the values of a known enumeration when they were made. -/
def SelectsInside (known : EnumTypes → Prop) (script : Script) : Prop :=
  ∀ argument, some argument ∈ script.slots →
    argument.Within known fun _ value => value.Inside known

theorem selectsInside_destroyed : SelectsInside known destroyed := fun _ filled => by cases filled

theorem selectsInside_ofMade {profile : Profile} {arguments : List Argument}
    (made : ∀ argument ∈ arguments, argument.Made known) :
    SelectsInside known (ofArguments profile arguments) := by
  intro argument filled
  obtain ⟨_, member, same⟩ := List.mem_map.mp filled
  cases same
  obtain ⟨types, kind, label, default, knows, given⟩ := made argument member
  exact Argument.within_make Payload.inherits_inside knows given

theorem selectsInside_of_registered {types : EnumTypes} {registration : Registration}
    (knows : known types) (given : registration.script types = .ok script) :
    SelectsInside known script := by
  obtain ⟨profile, arguments, rfl, made⟩ := Built.ofMade (.registered knows given)
  exact selectsInside_ofMade made

theorem SelectsInside.mono {wider : EnumTypes → Prop} (knows : ∀ types, known types → wider types)
    (inside : SelectsInside known script) : SelectsInside wider script :=
  fun argument filled => (inside argument filled).mono knows fun _ _ => .mono knows

theorem SelectsInside.of_changed (inside : SelectsInside known script)
    (changed : Changed (Argument.Carries known fun _ value => value.Inside known) script after) :
    SelectsInside known after := by
  intro argument filled
  obtain ⟨earlier, member, follow⟩ := changed.exists_before filled
  exact follow.within (inside earlier member)

theorem selectsInside_destroy (inside : SelectsInside known script) :
    SelectsInside known (Act.after destroy script) := by
  rcases exclusively_cases (set destroyed) script with ⟨fault, failed⟩ | ⟨free, rfl, notHeld⟩
  · rw [destroy, Act.after_of_error failed]
    exact inside
  · rw [destroy, Act.after, exclusively_free _ _ notHeld]
    exact selectsInside_destroyed

end Script

namespace Workspace

variable {α : Type} {known : EnumTypes → Prop} {space : Workspace}

/-- A workspace that has the enumerations it had before, and scripts whose selections were once
inside if they all were before. -/
structure Keeps (known : EnumTypes → Prop) (before after : Workspace) : Prop where
  types : after.types = before.types
  scripts : (∀ script ∈ before.scripts, script.SelectsInside known) →
    ∀ script ∈ after.scripts, script.SelectsInside known

instance : IsPreorder Workspace (Keeps known) where
  refl _ := ⟨rfl, id⟩
  trans _ _ _ left right := ⟨right.types.trans left.types, right.scripts ∘ left.scripts⟩

theorem reads_find {α : Type} (items : List α) (number : Nat) : (find items number).Reads := by
  unfold find
  cases items[number]? with
  | none => exact Act.reads_throw _
  | some item => exact Act.reads_pure item

theorem find_eq_ok {items : List α} {number : Nat} {after : Workspace} {item : α}
    (found : find items number space = .ok item after) : items[number]? = some item := by
  unfold find at found
  cases there : items[number]? with
  | none =>
      rw [there] at found
      cases found
  | some held =>
      rw [there] at found
      cases found
      rfl

theorem reads_config (number : Nat) : (config number).Reads :=
  Act.reads_get.bind fun _ => reads_find _ _

/-! Changing scripts. -/

theorem keeps_set {next : Workspace} {id : ScriptId} {script changed : Script}
    (there : space.scripts[id]? = some script) (types : next.types = space.types)
    (scripts : next.scripts = space.scripts.set id changed)
    (inside : script.SelectsInside known → changed.SelectsInside known) :
    Keeps known space next := by
  refine ⟨types, fun before held member => ?_⟩
  rw [scripts] at member
  rcases List.mem_or_eq_of_mem_set member with kept | rfl
  · exact before held kept
  · exact inside (before script (List.mem_of_getElem? there))

theorem after_onScript {id : ScriptId} {act : ScriptAct α} {script : Script}
    (there : space.scripts[id]? = some script) :
    Act.after (onScript id act) space =
      { space with scripts := space.scripts.set id (Act.after act script) } :=
  Act.after_of_eq_on (onScript_eq act there)

theorem keeps_onScript {id : ScriptId} {act : ScriptAct α}
    (inside : ∀ script, space.scripts[id]? = some script → script.SelectsInside known →
      (Act.after act script).SelectsInside known) :
    Keeps known space (Act.after (onScript id act) space) := by
  cases there : space.scripts[id]? with
  | none =>
      rw [Act.after_of_error (onScript_absent act there)]
      exact refl_of (Keeps known) space
  | some script =>
      rw [after_onScript there]
      exact keeps_set there rfl rfl (inside script there)

theorem after_onRun {id : ScriptId} {number : Nat} (act : Act RunDesk α) {script : Script}
    {history : History} (there : space.scripts[id]? = some script)
    (kept : space.histories[number]? = some history) :
    ∃ desk, desk = Act.after act ⟨script, ⟨history, space.journal⟩⟩ ∧
      Act.after (onRun id number act) space =
        { space with
          scripts := space.scripts.set id desk.script
          histories := space.histories.set number desk.record.history
          journal := desk.record.journal } :=
  ⟨_, rfl, Act.after_of_eq_on (onRun_eq act there kept)⟩

theorem keeps_onRun {id : ScriptId} {number : Nat} {act : Act RunDesk α}
    (inside : ∀ desk, space.scripts[id]? = some desk.script → desk.script.SelectsInside known →
      (Act.after act desk).script.SelectsInside known) :
    Keeps known space (Act.after (onRun id number act) space) := by
  have same : Keeps known space space := refl_of (Keeps known) space
  cases there : space.scripts[id]? with
  | none =>
      rw [Act.after_of_error (onRun_absent act (.inl there))]
      exact same
  | some script =>
      cases kept : space.histories[number]? with
      | none =>
          rw [Act.after_of_error (onRun_absent act (.inr kept))]
          exact same
      | some history =>
          obtain ⟨desk, left, ended⟩ := after_onRun act there kept
          rw [ended, left]
          exact keeps_set there rfl rfl (inside ⟨script, ⟨history, space.journal⟩⟩ there)

theorem keeps_addScript {script : Script} (inside : script.SelectsInside known) :
    (addScript script).Moves (Keeps known) := by
  intro space
  refine ⟨rfl, fun before held member => ?_⟩
  rcases List.mem_append.mp member with kept | new
  · exact before held kept
  · cases List.mem_singleton.mp new
    exact inside

theorem keeps_onJournal (act : Act Journal α) : (onJournal act).Moves (Keeps known) := by
  intro space
  rw [onJournal, Act.after_on]
  exact ⟨rfl, id⟩

theorem onJournal_eq_ok {act : Act Journal α} {after : Workspace} {value : α}
    (ran : onJournal act space = .ok value after) :
    ∃ journal, act space.journal = .ok value journal := by
  simp only [onJournal, Act.on] at ran
  cases inside : act space.journal with
  | ok given journal =>
      rw [inside] at ran
      cases ran
      exact ⟨journal, rfl⟩
  | error fault journal =>
      rw [inside] at ran
      cases ran

theorem keeps_addScripts {scripts : List Script}
    (inside : ∀ script ∈ scripts, script.SelectsInside known) :
    (scripts.mapM addScript).Moves (Keeps known) := by
  induction scripts with
  | nil => exact (Act.reads_pure []).moves
  | cons script scripts ih =>
      rw [List.mapM_cons]
      refine (keeps_addScript (inside script List.mem_cons_self)).bind fun id => ?_
      refine Act.Moves.bind (ih fun other later => inside other (List.mem_cons_of_mem _ later)) ?_
      exact fun ids => (Act.reads_pure _).moves

end Workspace

end ScriptCatalog
