import ScriptCatalog.Fault

/-! Actions that change a state and can fail. What a failing action changed before it failed
stays changed. -/

namespace ScriptCatalog

abbrev Act (σ α : Type) := EStateM Fault σ α

namespace Act

variable {σ τ α : Type}

/-- Fails unless a condition holds. -/
def require (condition : Bool) (fault : Fault) : Act σ Unit :=
  if condition then pure () else throw fault

def ofExcept : Except Fault α → Act σ α
  | .ok value => pure value
  | .error fault => throw fault

/-- Runs an action on a part of the state. -/
def on (part : σ → τ) (replace : τ → σ → σ) (act : Act τ α) : Act σ α := fun state =>
  match act (part state) with
  | .ok value next => .ok value (replace next state)
  | .error fault next => .error fault (replace next state)

/-- Runs an action and then, whether it failed or not, changes the state. -/
def ensuring (act : Act σ α) (after : σ → σ) : Act σ α := fun state =>
  match act state with
  | .ok value next => .ok value (after next)
  | .error fault next => .error fault (after next)

end Act

end ScriptCatalog
