import ScriptCatalog.Journal
import ScriptCatalog.Procedure.Build

/-! The registry of installed procedures, in the order they were installed. Replacing one keeps
its place. Names are usually texts, but any value that things can be looked up by is one. -/

namespace ScriptCatalog

variable [Platform]

structure Registry where
  procedures : List (Datum × Procedure)

namespace Registry

def empty : Registry := { procedures := [] }

def find? (registry : Registry) (name : Datum) : Except Fault (Option Procedure) := do
  name.expectHashable
  return registry.procedures.lookup name

def contains (registry : Registry) (name : Datum) : Except Fault Bool :=
  return (← registry.find? name).isSome

def names (registry : Registry) : List Datum := registry.procedures.map (·.1)

def put (procedure : Procedure) (registry : Registry) : Registry :=
  { procedures := putField procedure.name procedure registry.procedures }

def erase (name : Datum) (registry : Registry) : Registry :=
  { procedures := eraseField name registry.procedures }

end Registry

/-- A registry with the journal that it writes. -/
structure RegistryDesk where
  registry : Registry
  journal : Journal

namespace RegistryDesk

def log (level : Level) (text : String) : Act RegistryDesk Unit :=
  modify fun desk => { desk with journal := desk.journal.log level .procedures text }

def emit (event : Event) : Act RegistryDesk Unit :=
  modify fun desk => { desk with journal := desk.journal.emit event }

def install (procedure : Procedure) : Act RegistryDesk Unit := do
  let replaced ← Act.ofExcept ((← get).registry.contains procedure.name)
  modify fun desk => { desk with registry := desk.registry.put procedure }
  let done := if replaced then "Replaced" else "Installed"
  log .info s!"{done} procedure {procedure.name.display}"
  emit (.installed (heard procedure.name))

/-- Removes a procedure. A name that no procedure has is passed over. -/
def uninstall (name : Datum) : Act RegistryDesk Unit := do
  if ← Act.ofExcept ((← get).registry.contains name) then
    modify fun desk => { desk with registry := desk.registry.erase name }
    log .info s!"Uninstalled procedure {name.display}"
    emit (.uninstalled (heard name))
  else log .warning s!"Tried to uninstall unknown procedure {name.display}"

end RegistryDesk

end ScriptCatalog
