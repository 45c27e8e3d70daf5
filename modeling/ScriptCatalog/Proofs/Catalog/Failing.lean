import ScriptCatalog.Proofs.Catalog.Operations

/-! Operations on a table that fail. Looking at a script, installing, uninstalling and destroying
change nothing when they fail, but a table has written its own entry by then, and a script that gave
up its name may have lost its procedure. -/

namespace ScriptCatalog

section

variable [Platform]

/-! Single operations. -/

theorem RegistryDesk.install_atomic (procedure : Procedure) : (install procedure).Atomic := by
  refine Act.reads_get.bind_atomic fun desk => (Act.reads_ofExcept _).bind_atomic fun replaced => ?_
  intro state final fault failed
  cases failed

/-- Uninstalling fails only over a name that nothing can be looked up by. -/
theorem RegistryDesk.uninstall_cases (name : Datum) (desk : RegistryDesk) :
    (∃ fault, uninstall name desk = .error fault desk) ∨
      ∃ after, uninstall name desk = .ok () after ∧
        (after.registry = desk.registry ∨ after.registry = desk.registry.erase name) := by
  rw [uninstall, Act.get_bind]
  cases desk.registry.contains name with
  | error fault => exact .inl ⟨fault, rfl⟩
  | ok known =>
      cases known with
      | true => exact .inr ⟨_, rfl, .inr rfl⟩
      | false => exact .inr ⟨_, rfl, .inl rfl⟩

theorem Script.destroy_cases (script : Script) :
    (∃ fault, destroy script = .error fault script) ∨ destroy script = .ok () destroyed := by
  rcases exclusively_cases (set destroyed) script with failed | ⟨free, rfl, notHeld⟩
  · exact .inl failed
  · refine .inr ?_
    rw [destroy, exclusively_free _ _ notHeld]
    rfl

namespace Catalog

variable {α : Type} {catalog after : Catalog} {id : ScriptId} {name : Datum} {fault : Fault}

def procedures (catalog : Catalog) : Option (List (Datum × Procedure)) :=
  catalog.registry.map (·.procedures)

theorem reads_onScript {act : ScriptAct α} (reads : act.Reads) : (onScript id act).Reads := by
  intro catalog
  cases there : catalog.scripts[id]? with
  | none => exact .inr ⟨.absentObject, onScript_absent act there⟩
  | some script =>
      rcases reads script with ⟨value, ran⟩ | ⟨fault, failed⟩
      · exact .inl ⟨value, onScript_of_reading there ran⟩
      · exact .inr ⟨fault, onScript_of_failing there failed⟩

theorem reads_expectRegistry : expectRegistry.Reads :=
  Act.reads_get.bind fun _ => Act.reads_require _ _

theorem onRegistry_atomic {act : Act RegistryDesk α} (atomic : act.Atomic) :
    (onRegistry act).Atomic := by
  intro catalog final fault failed
  cases installed : catalog.registry with
  | none =>
      simp only [onRegistry, installed] at failed
      cases failed
      rfl
  | some registry =>
      simp only [onRegistry, installed] at failed
      cases ran : act ⟨registry, catalog.journal⟩ with
      | ok value desk =>
          simp only [ran] at failed
          cases failed
      | error cause desk =>
          cases atomic _ _ _ ran
          simp only [ran] at failed
          cases failed
          rw [← installed]

theorem install_atomic (id : ScriptId) (kind : ProcedureKind) : (install id kind).Atomic := by
  refine reads_expectRegistry.bind_atomic fun _ => ?_
  refine (reads_onScript (Script.reads_procedure kind)).bind_atomic fun procedure => ?_
  refine (onRegistry_atomic (RegistryDesk.install_atomic procedure)).bind ?_
  exact fun _ _ _ _ failed => by cases failed

/-- A catalog that lacks one procedure at most, and has none that it did not have before. -/
def KeptOrErased (catalog after : Catalog) : Prop :=
  after.procedures = catalog.procedures ∨
    ∃ key, after.procedures = catalog.procedures.map (eraseField key)

/-- A catalog with the same table and given scripts, and at most one procedure less. -/
structure Shrunk (catalog after : Catalog) (scripts : List Script) : Prop where
  table : after.table = catalog.table
  scripts : after.scripts = scripts
  procedures : KeptOrErased catalog after

theorem Shrunk.same (catalog : Catalog) : Shrunk catalog catalog catalog.scripts :=
  ⟨rfl, rfl, .inl rfl⟩

theorem uninstall_cases (id : ScriptId) (catalog : Catalog) :
    (∃ fault, uninstall id catalog = .error fault catalog) ∨
      ∃ after, uninstall id catalog = .ok () after ∧ Shrunk catalog after catalog.scripts := by
  rw [uninstall]
  cases installed : catalog.registry with
  | none =>
      have missing : expectRegistry catalog = .error .absentObject catalog := by
        rw [expectRegistry, Act.get_bind, installed]
        rfl
      exact .inl ⟨_, Act.bind_of_error _ missing⟩
  | some registry =>
      rw [Act.bind_of_ok _ (expectRegistry_ok catalog installed)]
      have naming : (onScript id Script.name).Reads := reads_onScript Script.reads_name
      rcases naming catalog with ⟨name, told⟩ | ⟨fault, failed⟩
      · rw [Act.bind_of_ok _ told]
        rcases RegistryDesk.uninstall_cases name ⟨registry, catalog.journal⟩ with
          ⟨fault, failed⟩ | ⟨desk, ran, left⟩
        · refine .inl ⟨fault, ?_⟩
          simp only [onRegistry, installed, failed]
          rw [← installed]
        · refine .inr ⟨_, onRegistry_of_ok installed ran, rfl, rfl, ?_⟩
          rcases left with same | erased
          · exact .inl (by rw [procedures, procedures, installed, same])
          · refine .inr ⟨name, ?_⟩
            rw [procedures, procedures, installed, erased]
            rfl
      · exact .inl ⟨fault, Act.bind_of_error _ failed⟩

theorem destroy_cases (id : ScriptId) (catalog : Catalog) :
    (∃ fault, onScript id Script.destroy catalog = .error fault catalog) ∨
      onScript id Script.destroy catalog =
        .ok () { catalog with scripts := catalog.scripts.set id .destroyed } := by
  cases there : catalog.scripts[id]? with
  | none => exact .inl ⟨.absentObject, onScript_absent _ there⟩
  | some script =>
      rcases script.destroy_cases with ⟨fault, failed⟩ | ran
      · exact .inl ⟨fault, onScript_of_failing there failed⟩
      · exact .inr (onScript_of_ok there ran)

theorem Shrunk.after_journal {scripts : List Script} {journal : Journal}
    (shrunk : Shrunk { catalog with journal } after scripts) : Shrunk catalog after scripts :=
  ⟨shrunk.table, shrunk.scripts, shrunk.procedures⟩

/-- Retiring a script that fails half-way has at most uninstalled its procedure. -/
theorem retire_cases (name : Datum) (previous : ScriptId) (catalog : Catalog) :
    (∃ fault after, retire name previous catalog = .error fault after ∧
        Shrunk catalog after catalog.scripts) ∨
      ∃ after, retire name previous catalog = .ok () after ∧
        Shrunk catalog after (catalog.scripts.set previous .destroyed) := by
  rw [retire, Act.modify_bind]
  rcases uninstall_cases previous { catalog with
      journal := catalog.journal.log .info .scriptTable s!"Redefining script {name.display}" } with
    ⟨fault, failed⟩ | ⟨between, ran, shrunk⟩
  · refine .inl ⟨fault, _, Act.bind_of_error _ failed, ?_⟩
    exact (Shrunk.same _).after_journal
  · rw [Act.bind_of_ok _ ran]
    have shrunk := shrunk.after_journal
    rcases destroy_cases previous between with ⟨fault, failed⟩ | destroyed
    · exact .inl ⟨fault, between, failed, shrunk⟩
    · refine .inr ⟨_, destroyed, shrunk.table, ?_, shrunk.procedures⟩
      rw [← shrunk.scripts]

/-! Adding and removing. -/

/-- What callers see of a table: its entries, the procedures of its registry, and which scripts are
destroyed. -/
def footprint (catalog : Catalog) :
    List (Datum × ScriptId) × Option (List (Datum × Procedure)) × List Bool :=
  (catalog.table.entries, catalog.procedures, catalog.scripts.map Script.isDestroyed)

/-- What adding a script leaves when it fails: everything as it was, as long as the script has not
told a name that something can be looked up by, and otherwise a table that lists it. The script that
had the name before may be destroyed, and the procedure of that name be gone. Only if the script was
listed before is nothing changed. -/
inductive AddLeft (catalog : Catalog) (id : ScriptId) (after : Catalog) : Prop
  | unlisted
      (untold : ∀ name found, onScript id Script.name catalog = .ok name catalog →
        catalog.table.find? name ≠ .ok found)
      (same : after = catalog)
  | listed (name : Datum) (told : onScript id Script.name catalog = .ok name catalog)
      (entries : after.table.entries = putField name id catalog.table.entries)
      (procedures : KeptOrErased catalog after)
      (scripts : after.scripts = catalog.scripts ∨
        ∃ previous, catalog.table.entries.lookup name = some previous ∧ previous ≠ id ∧
          after.scripts = catalog.scripts.set previous .destroyed)
      (unchanged : after.footprint = catalog.footprint ↔
        catalog.table.entries.lookup name = some id)

/-- What removing a name leaves when it fails: everything as it was if the table has no such name,
and otherwise a table without it. The script is not destroyed, but its procedure may be gone. -/
inductive RemoveLeft (catalog : Catalog) (name : Datum) (after : Catalog) : Prop
  | unknown (unknown : ∀ id, catalog.table.find? name ≠ .ok (some id)) (same : after = catalog)
  | unlisted (id : ScriptId) (found : catalog.table.find? name = .ok (some id))
      (entries : after.table.entries = eraseField name catalog.table.entries)
      (procedures : KeptOrErased catalog after)
      (scripts : after.scripts = catalog.scripts)
      (changed : after.footprint ≠ catalog.footprint)

theorem find?_eq_ok {table : ScriptTable} {found : Option ScriptId}
    (looked : table.find? name = .ok found) : table.entries.lookup name = found := by
  obtain ⟨_, _, same⟩ := (Except.bind_eq_ok _ _ _).mp looked
  cases same
  rfl

def listing (entries : List (Datum × ScriptId)) (catalog : Catalog) : Catalog :=
  { catalog with table := { catalog.table with entries } }

theorem addLeft_of_shrunk {scripts : List Script}
    (told : onScript id Script.name catalog = .ok name catalog)
    (shrunk : Shrunk (listing (putField name id catalog.table.entries) catalog) after scripts)
    (kept : scripts = catalog.scripts ∨
      ∃ previous, catalog.table.entries.lookup name = some previous ∧ previous ≠ id ∧
        scripts = catalog.scripts.set previous .destroyed)
    (again : catalog.table.entries.lookup name = some id →
      after = listing (putField name id catalog.table.entries) catalog) :
    AddLeft catalog id after := by
  have entries : after.table.entries = putField name id catalog.table.entries := by
    rw [shrunk.table]
    rfl
  refine .listed name told entries shrunk.procedures (shrunk.scripts ▸ kept) ⟨fun same => ?_, ?_⟩
  · rw [← putField_eq_self_iff, ← entries]
    exact congrArg Prod.fst same
  · intro held
    rw [again held, (putField_eq_self_iff _ _ _).mpr held]
    rfl

theorem addLeft_of_error (failed : add id catalog = .error fault after) :
    AddLeft catalog id after := by
  have naming : (onScript id Script.name).Reads := reads_onScript Script.reads_name
  rcases (Act.bind_eq_error _ _ _ _ _).mp failed with failed | ⟨name, between, told, failed⟩
  · refine .unlisted (fun name found told => ?_) (naming.state_eq_of_error failed)
    rw [failed] at told
    cases told
  cases naming.state_eq told
  rw [Act.get_bind] at failed
  cases looked : catalog.table.find? name with
  | error cause =>
      rw [looked] at failed
      cases failed
      refine .unlisted (fun other found toldOther => ?_) rfl
      rw [told] at toldOther
      cases toldOther
      rw [looked]
      exact fun same => by cases same
  | ok found =>
      have held := find?_eq_ok looked
      have stored : setEntries (putField name id catalog.table.entries) catalog =
          .ok () (listing (putField name id catalog.table.entries) catalog) := rfl
      rw [looked, Act.ofExcept_ok_bind, Act.bind_of_ok _ stored] at failed
      have finish : Act.Atomic (do
          let _ ← install id catalog.table.kind
          emit (.added (heard name)) : Act Catalog Unit) :=
        (install_atomic id catalog.table.kind).bind fun _ _ _ _ failed => by cases failed
      rcases found with _ | previous
      · cases finish _ _ _ failed
        exact addLeft_of_shrunk told (.same _) (.inl rfl) fun _ => rfl
      by_cases again : previous = id
      · simp only [again, ne_eq, not_true_eq_false, if_false] at failed
        cases finish _ _ _ failed
        exact addLeft_of_shrunk told (.same _) (.inl rfl) fun _ => rfl
      · simp only [again, ne_eq, not_false_eq_true, if_true] at failed
        have other : catalog.table.entries.lookup name = some id →
            after = listing (putField name id catalog.table.entries) catalog := by
          rw [held]
          exact fun same => absurd (Option.some.inj same) again
        rcases retire_cases name previous (listing (putField name id catalog.table.entries) catalog)
          with ⟨cause, left, stopped, shrunk⟩ | ⟨left, retired, shrunk⟩
        · rw [Act.bind_of_error _ stopped] at failed
          cases failed
          exact addLeft_of_shrunk told shrunk (.inl rfl) other
        · rw [Act.bind_of_ok _ retired] at failed
          cases finish _ _ _ failed
          exact addLeft_of_shrunk told shrunk (.inr ⟨previous, held, again, rfl⟩) other

theorem removeLeft_of_shrunk (found : catalog.table.find? name = .ok (some id))
    (shrunk : Shrunk (listing (eraseField name catalog.table.entries) catalog) after
      catalog.scripts) : RemoveLeft catalog name after := by
  have entries : after.table.entries = eraseField name catalog.table.entries := by
    rw [shrunk.table]
    rfl
  refine .unlisted id found entries shrunk.procedures shrunk.scripts fun same => ?_
  refine eraseField_ne_self (find?_eq_ok found) ?_
  rw [← entries]
  exact congrArg Prod.fst same

theorem removeLeft_of_error (failed : remove name catalog = .error fault after) :
    RemoveLeft catalog name after := by
  rw [remove, Act.get_bind] at failed
  cases looked : catalog.table.find? name with
  | error cause =>
      rw [looked] at failed
      cases failed
      refine .unknown (fun id => ?_) rfl
      rw [looked]
      exact fun same => by cases same
  | ok found =>
      rw [looked, Act.ofExcept_ok_bind] at failed
      cases found with
      | none =>
          cases failed
          refine .unknown (fun id => ?_) rfl
          rw [looked]
          exact fun same => by cases same
      | some id =>
          have stored : setEntries (eraseField name catalog.table.entries) catalog =
              .ok () (listing (eraseField name catalog.table.entries) catalog) := rfl
          simp only [Act.bind_of_ok _ stored] at failed
          refine removeLeft_of_shrunk looked ?_
          rcases uninstall_cases id (listing (eraseField name catalog.table.entries) catalog) with
            ⟨cause, stopped⟩ | ⟨between, ran, shrunk⟩
          · rw [Act.bind_of_error _ stopped] at failed
            cases failed
            exact .same _
          · rw [Act.bind_of_ok _ ran] at failed
            rcases destroy_cases id between with ⟨cause, stopped⟩ | destroyed
            · rw [Act.bind_of_error _ stopped] at failed
              cases failed
              exact shrunk
            · rw [Act.bind_of_ok _ destroyed] at failed
              cases failed

/-- Operations on a table that fail have written the entry of the table all the same, unless they
failed before they came to it. -/
theorem failed_operations_leave_entries (catalog after : Catalog) (fault : Fault) :
    (∀ id, add id catalog = .error fault after → AddLeft catalog id after) ∧
      ∀ name, remove name catalog = .error fault after → RemoveLeft catalog name after :=
  ⟨fun _ => addLeft_of_error, fun _ => removeLeft_of_error⟩

end Catalog

end

namespace Catalog

def alone (script : Script) : Catalog :=
  { scripts := [script], table := { kind := .temporary, entries := [] }, registry := some .empty
    journal := [] }

def heldInTable : Catalog :=
  Act.after (onScript 0 Script.acquire)
    (Act.after (add 0) (alone (.ofArguments (.plain "s") [])))

theorem failed_operations_leave_entries_held :
    ∃ fault after, remove (.text "s") heldInTable = .error fault after ∧
      heldInTable.table.entries = [(.text "s", 0)] ∧ after.table.entries = [] ∧
      after.scripts = heldInTable.scripts ∧ after.footprint ≠ heldInTable.footprint := by
  have entries : heldInTable.table.entries = [(.text "s", 0)] := rfl
  have looked : heldInTable.table.find? (.text "s") = .ok (some 0) := rfl
  obtain ⟨fault, after, failed⟩ :
      ∃ fault after, remove (.text "s") heldInTable = .error fault after := ⟨_, _, rfl⟩
  rcases (failed_operations_leave_entries heldInTable after fault).2 _ failed with
    ⟨unknown, _⟩ | ⟨id, _, left, _, scripts, changed⟩
  · exact absurd looked (unknown 0)
  · exact ⟨fault, after, failed, entries, left, scripts, changed⟩

def unfilled : Catalog := alone (.live ⟨.plain "s", [none], false⟩)

/-- A script that has no procedure is listed although adding it fails. -/
theorem add_lists_unfilled :
    ∃ fault after, add 0 unfilled = .error fault after ∧
      after.table.entries = [(.text "s", 0)] ∧ after.procedures = some [] ∧
      after.footprint ≠ unfilled.footprint := by
  refine ⟨_, _, rfl, rfl, rfl, fun same => ?_⟩
  cases same

end Catalog

end ScriptCatalog
