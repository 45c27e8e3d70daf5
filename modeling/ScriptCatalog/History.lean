import ScriptCatalog.Datum.Key
import ScriptCatalog.Journal

/-! The most recent commands, oldest first, as many as the history has room for. The room is a
positive number; one that is not whole is only found out when commands are to be dropped. -/

namespace ScriptCatalog

namespace Scalar

def isPositive : Scalar → Bool
  | bool value => value
  | int value => 0 < value
  | real value => Binary64.zero.less value
  | text _ => false

def lessThanCount (count : Nat) : Scalar → Bool
  | bool value => (if value then 1 else 0) < count
  | int value => value < count
  | real value => value.less (.ofNat count)
  | text _ => false

def count? : Scalar → Option Nat
  | bool value => some (if value then 1 else 0)
  | int value => some value.toNat
  | real _ | text _ => none

end Scalar

structure History where
  commands : List Datum
  capacity : Scalar
  capacity_pos : capacity.isPositive = true

namespace History

/-- The room of a history where nothing else is asked for. -/
def standardCapacity : Nat := 50

/-- A history with commands still to be trimmed to the room that it has. -/
def ofCommands (commands : List Datum) (capacity : Datum) : Except Fault History :=
  match capacity.number? with
  | none => .error (.notOrdered ">" capacity.typeName .int)
  | some capacity =>
      if positive : capacity.isPositive = true then
        .ok { commands, capacity, capacity_pos := positive }
      else .error .sizeNotPositive

def make (capacity : Datum) : Except Fault History := ofCommands [] capacity

/-- The newest commands, at most as many as there is room for. -/
def newest (room : Nat) (commands : List Datum) : List Datum :=
  commands.drop (commands.length - room)

/-- Whether there are more commands than there is room for. -/
def isOverfull (history : History) : Bool :=
  history.capacity.lessThanCount history.commands.length

def push (command : Datum) (history : History) : History :=
  { history with commands := history.commands ++ [command] }

/-- Drops the oldest commands for which there is no room. -/
def trim (history : History) : Except Fault History :=
  if history.isOverfull then
    match history.capacity.count? with
    | some room => .ok { history with commands := newest room history.commands }
    | none => .error .boundNotInt
  else .ok history

def last? (history : History) : Option Datum := history.commands.getLast?

def clear (history : History) : History := { history with commands := [] }

theorem length_newest_le (room : Nat) (commands : List Datum) :
    (newest room commands).length ≤ room := by
  simp [newest]
  omega

end History

/-- A history with the journal in which it tells of its changes. -/
structure HistoryDesk where
  history : History
  journal : Journal

namespace HistoryDesk

variable [Platform]

def emit (event : Event) : Act HistoryDesk Unit :=
  modify fun desk => { desk with journal := desk.journal.emit event }

def setHistory (history : History) : Act HistoryDesk Unit :=
  modify fun desk => { desk with history }

def trim : Act HistoryDesk Unit := do setHistory (← Act.ofExcept (← get).history.trim)

def add (command : Datum) : Act HistoryDesk Unit := do
  setHistory ((← get).history.push command)
  trim
  emit (.commandAdded (heard command))

def clear : Act HistoryDesk Unit := do
  setHistory (← get).history.clear
  emit .historyCleared

/-- Changes the room of the history, dropping the oldest commands for which there is none. -/
def setCapacity (capacity : Datum) : Act HistoryDesk Unit := do
  setHistory (← Act.ofExcept (History.ofCommands (← get).history.commands capacity))
  trim

end HistoryDesk

end ScriptCatalog
