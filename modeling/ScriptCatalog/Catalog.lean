import ScriptCatalog.Procedure.Registry

/-! A table of scripts by name, kept in step with the registry that their procedures are
installed in. Adding a script under a name in use replaces the procedure and destroys the script
that had the name; removing a script uninstalls its procedure and destroys it. -/

namespace ScriptCatalog

variable [Platform]

/-- Scripts are shared between tables and callers, and told apart by number. -/
abbrev ScriptId := Nat

structure ScriptTable where
  kind : ProcedureKind
  entries : List (Datum × ScriptId)

namespace ScriptTable

def find? (table : ScriptTable) (name : Datum) : Except Fault (Option ScriptId) := do
  name.expectHashable
  return table.entries.lookup name

def contains (table : ScriptTable) (name : Datum) : Except Fault Bool :=
  return (← table.find? name).isSome

/-- The names in order, texts by their characters. -/
def names (table : ScriptTable) : Except Fault (List Datum) := do
  let names := table.entries.map (·.1)
  Datum.expectOrdered names
  return names.mergeSort fun left right => !(right.before? left).getD false

end ScriptTable

/-- A table with the scripts it holds and the registry it installs in, which may be missing. -/
structure Catalog where
  scripts : List Script
  table : ScriptTable
  registry : Option Registry
  journal : Journal

namespace Catalog

def onScript {α : Type} (id : ScriptId) (act : ScriptAct α) : Act Catalog α := fun catalog =>
  match catalog.scripts[id]? with
  | none => .error .absentObject catalog
  | some script =>
      match act script with
      | .ok value changed => .ok value { catalog with scripts := catalog.scripts.set id changed }
      | .error fault changed =>
          .error fault { catalog with scripts := catalog.scripts.set id changed }

def onRegistry {α : Type} (act : Act RegistryDesk α) : Act Catalog α := fun catalog =>
  match catalog.registry with
  | none => .error .absentObject catalog
  | some registry =>
      match act { registry, journal := catalog.journal } with
      | .ok value desk =>
          .ok value { catalog with registry := some desk.registry, journal := desk.journal }
      | .error fault desk =>
          .error fault { catalog with registry := some desk.registry, journal := desk.journal }

def expectRegistry : Act Catalog Unit := do
  Act.require (← get).registry.isSome .absentObject

def emit (event : Event) : Act Catalog Unit :=
  modify fun catalog => { catalog with journal := catalog.journal.emit event }

def setEntries (entries : List (Datum × ScriptId)) : Act Catalog Unit :=
  modify fun catalog => { catalog with table := { catalog.table with entries } }

def install (id : ScriptId) (kind : ProcedureKind) : Act Catalog Procedure := do
  expectRegistry
  let procedure ← onScript id (Script.procedure kind)
  onRegistry (RegistryDesk.install procedure)
  return procedure

def uninstall (id : ScriptId) : Act Catalog Unit := do
  expectRegistry
  let name ← onScript id Script.name
  onRegistry (RegistryDesk.uninstall name)

/-- Takes the script that had a name before out of use. -/
def retire (name : Datum) (previous : ScriptId) : Act Catalog Unit := do
  let record := s!"Redefining script {name.display}"
  modify fun catalog =>
    { catalog with journal := catalog.journal.log .info .scriptTable record }
  uninstall previous
  onScript previous Script.destroy

def add (id : ScriptId) : Act Catalog Unit := do
  let name ← onScript id Script.name
  let table := (← get).table
  let replaced ← Act.ofExcept (table.find? name)
  setEntries (putField name id table.entries)
  match replaced with
  | some previous => if previous ≠ id then retire name previous
  | none => pure ()
  let _ ← install id table.kind
  emit (.added (heard name))

def remove (name : Datum) : Act Catalog Unit := do
  let table := (← get).table
  match ← Act.ofExcept (table.find? name) with
  | none => throw (.noScriptNamed name)
  | some id =>
      setEntries (eraseField name table.entries)
      uninstall id
      onScript id Script.destroy
      emit (.removed (heard name))

/-- Removes the scripts of the given names one after the other. -/
def removeAll : List Datum → Act Catalog Unit
  | [] => pure ()
  | name :: rest => do
      remove name
      removeAll rest

def clear : Act Catalog Unit := do removeAll (← Act.ofExcept (← get).table.names)

end Catalog

end ScriptCatalog
