import Mathlib.Data.List.Induction
import Mathlib.Order.Bounds.Image
import ScriptCatalog.Proofs.Runner.Recording

/-! The commands that a history keeps. A command that is dropped does not come back when there is
more room later, so how many of the newest are left depends on all the rooms that the history had
since it was cleared, each with the commands that were added after it. -/

namespace ScriptCatalog

/-- The room that a value asks for. There is none for what is no positive number. -/
def Datum.room? : Datum → Option Nat
  | .bool true => some 1
  | .int count => if 0 < count then some count.toNat else none
  | _ => none

theorem Datum.pos_of_room {capacity : Datum} {room : Nat} (asked : capacity.room? = some room) :
    0 < room := by
  unfold room? at asked
  split at asked
  · cases asked
    exact Nat.one_pos
  · split at asked
    · cases asked
      omega
    · cases asked
  · cases asked

/-- What is done with a history. Where a number is given for its room, it is a whole one. -/
inductive HistoryTurn where
  | add (command : String)
  | clear
  | setCapacity (capacity : Datum) (whole : ∀ number, capacity ≠ .real number)

namespace HistoryTurn

variable [Platform]

def act : HistoryTurn → Act HistoryDesk Unit
  | add command => HistoryDesk.add (.text command)
  | clear => HistoryDesk.clear
  | setCapacity capacity _ => HistoryDesk.setCapacity capacity

/-- A turn that is refused is one that asks for no room. -/
def Accepted : HistoryTurn → Prop
  | setCapacity capacity _ => capacity.room?.isSome = true
  | _ => True

def addedTo (before : List String) : HistoryTurn → List String
  | add command => before ++ [command]
  | clear => []
  | setCapacity .. => before

def roomFrom (before : Nat) : HistoryTurn → Nat
  | setCapacity capacity _ => capacity.room?.getD before
  | _ => before

/-- What others are told of a turn. They hear commands as texts are passed on. -/
def told? : HistoryTurn → Option Event
  | add command => some (.commandAdded (passedText command))
  | clear => some .historyCleared
  | setCapacity .. => none

/-- The commands added since the history was cleared last. -/
def commands (turns : List HistoryTurn) : List String := turns.foldl addedTo []

/-- The room after some turns, of a history that had so much at first. -/
def room (start : Nat) (turns : List HistoryTurn) : Nat := turns.foldl roomFrom start

/-- For each moment since the history was cleared last, the room it had then and the commands that
were added after that: no more than these can be left. -/
def limits (start : Nat) (turns : List HistoryTurn) : Set Nat :=
  { limit | ∃ before after, turns = before ++ after ∧ clear ∉ after ∧
    limit = room start before + (commands after).length }

/-- The limits, and the number of commands that there are. -/
def bounds (start : Nat) (turns : List HistoryTurn) : Set Nat :=
  insert (commands turns).length (limits start turns)

def run (turns : List HistoryTurn) (desk : HistoryDesk) : HistoryDesk :=
  turns.foldl (fun desk turn => turn.act.after desk) desk

variable {start : Nat} {turns : List HistoryTurn} {turn : HistoryTurn}

theorem commands_append_singleton (turns : List HistoryTurn) (turn : HistoryTurn) :
    commands (turns ++ [turn]) = turn.addedTo (commands turns) := by
  simp [commands]

theorem room_append_singleton (start : Nat) (turns : List HistoryTurn) (turn : HistoryTurn) :
    room start (turns ++ [turn]) = turn.roomFrom (room start turns) := by
  simp [room]

theorem run_append_singleton (turns : List HistoryTurn) (turn : HistoryTurn)
    (desk : HistoryDesk) : run (turns ++ [turn]) desk = turn.act.after (run turns desk) := by
  simp [run]

/-- How many commands a turn adds. -/
def additions : HistoryTurn → Nat
  | add _ => 1
  | _ => 0

theorem length_addedTo (stays : turn ≠ clear) (before : List String) :
    (turn.addedTo before).length = before.length + turn.additions := by
  cases turn with
  | add command => simp [addedTo, additions]
  | clear => exact absurd rfl stays
  | setCapacity capacity whole => rfl

/-! The limits after one turn more. -/

theorem room_mem_limits (start : Nat) (turns : List HistoryTurn) :
    room start turns ∈ limits start turns :=
  ⟨turns, [], (List.append_nil turns).symm, List.not_mem_nil, rfl⟩

/-- A limit is the room at present, or one that there was before, with what was added. -/
theorem limits_append_singleton (stays : turn ≠ clear) :
    limits start (turns ++ [turn]) =
      insert (room start (turns ++ [turn])) ((· + turn.additions) '' limits start turns) := by
  ext limit
  constructor
  · rintro ⟨before, after, split, kept, rfl⟩
    induction after using List.reverseRecOn with
    | nil =>
        rw [List.append_nil] at split
        rw [← split]
        exact .inl rfl
    | append_singleton after last _ =>
        rw [← List.append_assoc] at split
        obtain ⟨rfl, same⟩ := List.append_inj' split rfl
        cases same
        refine .inr ⟨_, ⟨before, after, rfl, ?_, rfl⟩, ?_⟩
        · intro member
          exact kept (List.mem_append_left _ member)
        · simp only [commands_append_singleton, length_addedTo stays]
          omega
  · rintro (rfl | ⟨_, ⟨before, after, rfl, kept, rfl⟩, rfl⟩)
    · exact room_mem_limits _ _
    · refine ⟨before, after ++ [turn], List.append_assoc _ _ _, ?_, ?_⟩
      · simp [kept, stays.symm]
      · simp only [commands_append_singleton, length_addedTo stays]
        omega

theorem bounds_append_singleton (stays : turn ≠ clear) :
    bounds start (turns ++ [turn]) =
      insert (room start (turns ++ [turn])) ((· + turn.additions) '' bounds start turns) := by
  rw [bounds, limits_append_singleton stays, bounds, Set.image_insert_eq, Set.insert_comm,
    commands_append_singleton, length_addedTo stays]

/-- One turn more leaves the commands that there were, with what it adds, if there is the room. -/
theorem isLeast_append_singleton {kept : Nat} (stays : turn ≠ clear)
    (least : IsLeast (bounds start turns) kept) :
    IsLeast (bounds start (turns ++ [turn]))
      (min (turn.roomFrom (room start turns)) (kept + turn.additions)) := by
  rw [bounds_append_singleton stays, room_append_singleton]
  have more : Monotone (· + turn.additions) := fun _ _ less => Nat.add_le_add_right less _
  exact (more.map_isLeast least).insert _

theorem isLeast_of_none_added (none : commands turns = []) : IsLeast (bounds start turns) 0 := by
  refine ⟨.inl ?_, fun limit _ => Nat.zero_le limit⟩
  rw [none]
  rfl

theorem room_pos (positive : 0 < start) (turns : List HistoryTurn) : 0 < room start turns := by
  induction turns using List.reverseRecOn with
  | nil => exact positive
  | append_singleton turns turn ih =>
      rw [room_append_singleton]
      cases turn with
      | add command => exact ih
      | clear => exact ih
      | setCapacity capacity whole =>
          cases asked : capacity.room? with
          | none => simpa [roomFrom, asked] using ih
          | some next => simpa [roomFrom, asked] using Datum.pos_of_room asked

/-- Where a command was added since the history was cleared, one is left. -/
theorem pos_of_isLeast {kept : Nat} (positive : 0 < start) (some : commands turns ≠ [])
    (least : IsLeast (bounds start turns) kept) : 0 < kept := by
  rcases least.1 with all | ⟨before, after, _, _, rfl⟩
  · rw [all]
    exact List.length_pos_iff.mpr some
  · have room := room_pos positive before
    omega

end HistoryTurn

namespace HistoryDesk

variable [Platform]

open HistoryTurn

variable {start : Nat} {turns : List HistoryTurn} {desk : HistoryDesk} {capacity : Datum}

theorem length_newest (room : Nat) (commands : List Datum) :
    (History.newest room commands).length = min room commands.length := by
  rw [History.newest, List.length_drop]
  omega

/-- A value that asks for room is taken for the capacity. -/
theorem ofCommands_of_room {room : Nat} (asked : capacity.room? = some room)
    (commands : List Datum) :
    ∃ history, History.ofCommands commands capacity = .ok history ∧
      history.commands = commands ∧ history.capacity.count? = some room := by
  cases capacity with
  | bool value =>
      cases value with
      | false => cases asked
      | true =>
          cases asked
          exact ⟨⟨commands, .bool true, rfl⟩, rfl, rfl, rfl⟩
  | int count =>
      by_cases positive : 0 < count
      · have roomy : (Scalar.int count).isPositive = true := decide_eq_true positive
        simp only [Datum.room?, positive, if_true, Option.some.injEq] at asked
        exact ⟨⟨commands, .int count, roomy⟩, dif_pos roomy, rfl, congrArg some asked⟩
      · simp [Datum.room?, positive] at asked
  | _ => cases asked

theorem ofCommands_of_no_room (none : capacity.room? = none)
    (whole : ∀ number, capacity ≠ .real number) (commands : List Datum) :
    ∃ fault, History.ofCommands commands capacity = .error fault := by
  cases capacity with
  | bool value =>
      cases value with
      | false => exact ⟨_, rfl⟩
      | true => cases none
  | int count =>
      have negative : ¬0 < count := by
        intro positive
        simp [Datum.room?, positive] at none
      have cramped : ¬(Scalar.int count).isPositive = true := by
        simpa [Scalar.isPositive] using negative
      exact ⟨_, dif_neg cramped⟩
  | real number => exact absurd rfl (whole number)
  | _ => exact ⟨_, rfl⟩

theorem setCapacity_of_room {room : Nat} (asked : capacity.room? = some room)
    (desk : HistoryDesk) :
    ∃ history, setCapacity capacity desk = .ok () { desk with history } ∧
      history.commands = History.newest room desk.history.commands ∧
      history.capacity.count? = some room := by
  obtain ⟨resized, taken, same, whole⟩ := ofCommands_of_room asked desk.history.commands
  exact ⟨_, setCapacity_of_taken taken whole, by rw [same], whole⟩

theorem setCapacity_of_no_room (none : capacity.room? = none)
    (whole : ∀ number, capacity ≠ .real number) (desk : HistoryDesk) :
    ∃ fault, setCapacity capacity desk = .error fault desk := by
  obtain ⟨fault, refused⟩ := ofCommands_of_no_room none whole desk.history.commands
  refine ⟨fault, ?_⟩
  rw [setCapacity, Act.get_bind, refused]
  rfl

/-- A history with the newest of the commands that were added, as many as never were without
room. -/
structure Keeps (start : Nat) (turns : List HistoryTurn) (history : History) : Prop where
  capacity : history.capacity.count? = some (room start turns)
  suffix : history.commands <:+ (commands turns).map .text
  least : IsLeast (bounds start turns) history.commands.length

theorem Keeps.fits (keeps : Keeps start turns desk.history) :
    desk.history.commands.length ≤ room start turns :=
  keeps.least.2 (.inr (room_mem_limits start turns))

theorem Keeps.last?_eq (positive : 0 < start) (keeps : Keeps start turns desk.history) :
    desk.history.last? = (commands turns).getLast?.map .text := by
  obtain ⟨earlier, same⟩ := keeps.suffix
  rw [← List.getLast?_map, ← same, History.last?]
  by_cases none : commands turns = []
  · rw [none, List.map_nil, List.append_eq_nil_iff] at same
    rw [same.1, List.nil_append]
  · have left := List.length_pos_iff.mp (pos_of_isLeast positive none keeps.least)
    exact (List.getLast?_append_of_ne_nil _ left).symm

theorem keeps_start {history : History} (asked : capacity.room? = some start)
    (made : History.make capacity = .ok history) : Keeps start [] history := by
  obtain ⟨_, again, none, whole⟩ := ofCommands_of_room asked []
  cases made.symm.trans again
  refine ⟨whole, ?_, ?_⟩
  · rw [none]
    exact List.nil_suffix
  · rw [none]
    exact isLeast_of_none_added rfl

theorem Keeps.add (keeps : Keeps start turns desk.history) (command : String) :
    add (.text command) desk = .ok () (added (room start turns) (.text command) desk) ∧
      Keeps start (turns ++ [.add command])
        (added (room start turns) (.text command) desk).history := by
  refine ⟨add_eq _ desk _ keeps.capacity, ?_, ?_, ?_⟩
  · rw [room_append_singleton]
    exact keeps.capacity
  · rw [commands_append_singleton, addedTo, List.map_append]
    refine (List.drop_suffix _ _).trans ?_
    obtain ⟨earlier, same⟩ := keeps.suffix
    rw [← same, List.append_assoc]
    exact List.suffix_append _ _
  · have least : IsLeast (bounds start (turns ++ [.add command]))
        (min (room start turns) (desk.history.commands.length + 1)) :=
      isLeast_append_singleton nofun keeps.least
    simpa [added, length_newest] using least

theorem Keeps.clear (keeps : Keeps start turns desk.history) :
    Keeps start (turns ++ [.clear]) desk.history.clear := by
  refine ⟨?_, List.nil_suffix, ?_⟩
  · rw [room_append_singleton]
    exact keeps.capacity
  · refine isLeast_of_none_added ?_
    rw [commands_append_singleton, addedTo]

/-- A room that is taken drops the oldest commands for which there is none in it. -/
theorem Keeps.resized (keeps : Keeps start turns desk.history) {next : Nat}
    (asked : capacity.room? = some next) (whole : ∀ number, capacity ≠ .real number)
    {history : History} (newest : history.commands = History.newest next desk.history.commands)
    (taken : history.capacity.count? = some next) :
    Keeps start (turns ++ [.setCapacity capacity whole]) history := by
  have now : roomFrom (room start turns) (.setCapacity capacity whole) = next := by
    rw [roomFrom, asked, Option.getD_some]
  refine ⟨?_, ?_, ?_⟩
  · rw [room_append_singleton, now]
    exact taken
  · rw [commands_append_singleton, addedTo, newest]
    exact (List.drop_suffix _ _).trans keeps.suffix
  · rw [newest, length_newest, ← now]
    exact isLeast_append_singleton nofun keeps.least

/-- A room that is refused leaves the one that there was. -/
theorem Keeps.refused (keeps : Keeps start turns desk.history) (none : capacity.room? = none)
    (whole : ∀ number, capacity ≠ .real number) :
    Keeps start (turns ++ [.setCapacity capacity whole]) desk.history := by
  have now : roomFrom (room start turns) (.setCapacity capacity whole) = room start turns := by
    rw [roomFrom, none, Option.getD_none]
  refine ⟨?_, ?_, ?_⟩
  · rw [room_append_singleton, now]
    exact keeps.capacity
  · rw [commands_append_singleton, addedTo]
    exact keeps.suffix
  · rw [← min_eq_right keeps.fits]
    rw [← now]
    exact isLeast_append_singleton nofun keeps.least

/-- A turn that is accepted succeeds, and one that is refused fails and changes nothing. -/
def Takes (turn : HistoryTurn) (desk : HistoryDesk) : Prop :=
  (turn.Accepted ∧ ∃ after, turn.act desk = .ok () after) ∨
    (¬turn.Accepted ∧ ∃ fault, turn.act desk = .error fault desk)

/-- What one turn does to a history that keeps the newest commands. -/
theorem Keeps.turned (keeps : Keeps start turns desk.history) (turn : HistoryTurn) :
    Takes turn desk ∧ Keeps start (turns ++ [turn]) (turn.act.after desk).history ∧
      (turn.act.after desk).journal.events = desk.journal.events ++ turn.told?.toList := by
  cases turn with
  | add command =>
      obtain ⟨ran, next⟩ := keeps.add command
      have final : (HistoryTurn.act (.add command)).after desk = _ := Act.after_of_ok ran
      rw [final]
      exact ⟨.inl ⟨trivial, _, ran⟩, next, Journal.events_append _ _⟩
  | clear => exact ⟨.inl ⟨trivial, _, rfl⟩, keeps.clear, Journal.events_append _ _⟩
  | setCapacity capacity whole =>
      cases asked : capacity.room? with
      | some next =>
          obtain ⟨history, ran, newest, taken⟩ := setCapacity_of_room asked desk
          have final : (HistoryTurn.act (.setCapacity capacity whole)).after desk = _ :=
            Act.after_of_ok ran
          have accepted : HistoryTurn.Accepted (.setCapacity capacity whole) :=
            Option.isSome_iff_exists.mpr ⟨next, asked⟩
          rw [final]
          exact ⟨.inl ⟨accepted, _, ran⟩, keeps.resized asked whole newest taken,
            (List.append_nil _).symm⟩
      | none =>
          obtain ⟨fault, failed⟩ := setCapacity_of_no_room asked whole desk
          have final : (HistoryTurn.act (.setCapacity capacity whole)).after desk = _ :=
            Act.after_of_error failed
          have refused : ¬HistoryTurn.Accepted (.setCapacity capacity whole) := by
            simp [Accepted, asked]
          rw [final]
          exact ⟨.inr ⟨refused, fault, failed⟩, keeps.refused asked whole,
            (List.append_nil _).symm⟩

/-- What a history keeps after any number of turns, and what was told of them. -/
theorem keeps_run (keeps : Keeps start [] desk.history) (turns : List HistoryTurn) :
    Keeps start turns (run turns desk).history ∧
      (run turns desk).journal.events = desk.journal.events ++ turns.filterMap told? := by
  induction turns using List.reverseRecOn with
  | nil => exact ⟨keeps, (List.append_nil _).symm⟩
  | append_singleton turns turn ih =>
      obtain ⟨kept, told⟩ := ih
      obtain ⟨_, next, more⟩ := kept.turned turn
      rw [run_append_singleton, more, told]
      refine ⟨next, ?_⟩
      cases turn <;> simp [told?]

end HistoryDesk

namespace HistoryDesk

open HistoryTurn

/-- Three commands, of which one is left when the room shrinks; it grows again before the fourth,
and what asks for no room changes nothing. -/
def resizing : List HistoryTurn :=
  [.add "(a)", .add "(b)", .add "(c)", .setCapacity (.int 1) nofun, .setCapacity (.int 3) nofun,
    .setCapacity (.int 0) nofun, .add "(d)"]

/-- One and a half. -/
def oneAndHalf : Binary64 := .ofRatio false 3 2

theorem isPositive_oneAndHalf : (Scalar.real oneAndHalf).isPositive = true := by decide +kernel

theorem trim_one_of_oneAndHalf (command : Datum) :
    (History.push command ⟨[], .real oneAndHalf, isPositive_oneAndHalf⟩).trim =
      .ok ⟨[command], .real oneAndHalf, isPositive_oneAndHalf⟩ := by
  have fits : (Scalar.real oneAndHalf).lessThanCount 1 = false := by decide +kernel
  rw [History.trim, History.isOverfull]
  exact if_neg (Bool.eq_false_iff.mp fits)

theorem trim_two_of_oneAndHalf (first second : Datum) :
    (History.push second ⟨[first], .real oneAndHalf, isPositive_oneAndHalf⟩).trim =
      .error .boundNotInt := by
  have overfull : (Scalar.real oneAndHalf).lessThanCount 2 = true := by decide +kernel
  rw [History.trim, History.isOverfull]
  exact if_pos overfull

theorem make_oneAndHalf : History.make (.real oneAndHalf) =
    .ok ⟨[], .real oneAndHalf, isPositive_oneAndHalf⟩ := by
  simp only [History.make, History.ofCommands, Datum.number?, isPositive_oneAndHalf, dif_pos]

/-- Room for a command and a half is room for one, but that is only found out when the second is
there: it stays, and nobody is told of it. -/
theorem kept_beyond_half_room :
    ∃ history, History.make (.real oneAndHalf) = .ok history ∧
      ∃ before after, add (.text "a") ⟨history, []⟩ = .ok () before ∧
        add (.text "b") before = .error .boundNotInt after ∧
        after.history.commands = [.text "a", .text "b"] ∧
        after.journal.events = [.commandAdded "a"] := by
  have heard : passedText "a" = "a" := by decide
  refine ⟨_, make_oneAndHalf, _, _, add_of_trim_ok _ _ (trim_one_of_oneAndHalf _),
    add_of_trim_error _ _ (trim_two_of_oneAndHalf _ _), rfl, ?_⟩
  change [Event.commandAdded (passedText "a")] = _
  rw [heard]

end HistoryDesk

end ScriptCatalog
