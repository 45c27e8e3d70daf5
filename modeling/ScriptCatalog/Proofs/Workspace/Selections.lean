import ScriptCatalog.Proofs.Workspace.Kept

/-! Selections of enumerations in use. A selection is checked against the values that its
enumeration has when a payload is made of it, and not again when those values are replaced. What can
be told of a selection at any time is that it was among the values that there once were. -/

namespace ScriptCatalog

section

variable [Platform]

namespace Workspace

/-- A payload that could be made with enumerations as they were at some time. -/
def Assignable (past : List EnumTypes) (_ : Argument) (held : Payload) : Prop :=
  held.Inside (· ∈ past)

/-- What can happen to enumerations and scripts: enumerations are registered, scripts are
registered, loaded or created, run, and given other values, and destroyed. Values that are assigned
were made with enumerations of some time in the past; all else looks into those of now. -/
inductive Step (past : List EnumTypes) (space : Workspace) : Workspace → Prop
  | registerEnum (name values : Datum) :
      Step past space (Act.after (registerEnum name values) space)
  | register (registration : Registration) :
      Step past space (Act.after (register registration) space)
  | loadScripts (path : String) : Step past space (Act.after (loadScripts path) space)
  | create (profile : Profile) (arguments : List Argument)
      (made : ∀ argument ∈ arguments, argument.Made (· = space.types)) :
      Step past space (Act.after (addScript (.ofArguments profile arguments)) space)
  | change (id : ScriptId) (change : ValueChange)
      (allowed : ∀ script, space.scripts[id]? = some script →
        change.Allowed (· = space.types) (Assignable past) script) :
      Step past space (Act.after (onScript id change.act) space)
  | resetArgument (id : ScriptId) (index : Datum) (resetIds : Bool) :
      Step past space
        (Act.after (onScript id (Script.onArgument index (Argument.reset space.types resetIds)))
          space)
  | run (runner : Nat) (script : Option ScriptId) (invocation : Invocation)
      (edits : ∀ inUse id held, space.runners[runner]? = some inUse → script = some id →
        space.scripts[id]? = some held →
          RunDesk.Edits (Script.Reaches (· = space.types) (Assignable past)) inUse.dialog
            space.types invocation held) :
      Step past space (Act.after (run runner script invocation) space)
  | resetScript (runner : Nat) (id : ScriptId) :
      Step past space (Act.after (resetScript runner id) space)
  | destroy (id : ScriptId) : Step past space (Act.after (onScript id Script.destroy) space)

/-- What is reached from a workspace without scripts, with the enumerations as they were after each
step, the last first. -/
inductive Reached : List EnumTypes → Workspace → Prop
  | start (space : Workspace) : space.scripts = [] → Reached [space.types] space
  | step {past : List EnumTypes} {space next : Workspace} : Reached past space →
      Step past space next → Reached (next.types :: past) next

/-- A workspace whose enumerations have every name that any in the past had, and whose selections
were inside at some time. -/
structure Settled (past : List EnumTypes) (space : Workspace) : Prop where
  now : space.types ∈ past
  names : ∀ types ∈ past, ∀ name nicks, types.nicks? name = .ok (some nicks) →
    ∃ later, space.types.nicks? name = .ok (some later)
  scripts : ∀ script ∈ space.scripts, script.SelectsInside (· ∈ past)

variable {known : EnumTypes → Prop} {past : List EnumTypes} {space next : Workspace}

theorem Settled.of_keeps (settled : Settled past space) (keeps : Keeps (· ∈ past) space next) :
    Settled (next.types :: past) next where
  now := List.mem_cons_self
  names types member name nicks looked := by
    rcases List.mem_cons.mp member with rfl | earlier
    · exact ⟨nicks, looked⟩
    · rw [keeps.types]
      exact settled.names types earlier name nicks looked
  scripts script member :=
    (keeps.scripts settled.scripts script member).mono fun _ => List.mem_cons_of_mem _

/-! Single steps. -/

theorem registerEnum_cases (name values : Datum) (space : Workspace) :
    (Act.after (registerEnum name values) space).scripts = space.scripts ∧
      ((Act.after (registerEnum name values) space).types = space.types ∨
        ∃ nicks, space.types.register name nicks =
          .ok (Act.after (registerEnum name values) space).types) := by
  rw [registerEnum]
  cases EnumTypes.nicksOf values with
  | error fault => exact ⟨rfl, .inl rfl⟩
  | ok nicks =>
      rw [Act.after, Act.ofExcept_ok_bind, Act.get_bind]
      cases given : space.types.register name nicks with
      | error fault => exact ⟨rfl, .inl rfl⟩
      | ok changed =>
          rw [Act.ofExcept_ok_bind]
          cases space.types.contains name with
          | error fault => exact ⟨rfl, .inl rfl⟩
          | ok replaces =>
              cases replaces with
              | true => exact ⟨rfl, .inr ⟨nicks, given⟩⟩
              | false => exact ⟨rfl, .inr ⟨nicks, given⟩⟩

theorem settled_registerEnum (settled : Settled past space) (name values : Datum)
    (ended : Act.after (registerEnum name values) space = next) :
    Settled (next.types :: past) next := by
  obtain ⟨scripts, types⟩ := registerEnum_cases name values space
  rw [ended] at scripts types
  rcases types with same | ⟨nicks, given⟩
  · exact settled.of_keeps ⟨same, fun before => scripts ▸ before⟩
  · refine ⟨List.mem_cons_self, fun types member asked values looked => ?_, ?_⟩
    · rcases List.mem_cons.mp member with rfl | earlier
      · exact ⟨values, looked⟩
      · obtain ⟨later, held⟩ := settled.names types earlier asked values looked
        exact EnumTypes.nicks?_of_register given held
    · rw [scripts]
      exact fun script member =>
        (settled.scripts script member).mono fun _ => List.mem_cons_of_mem _

theorem keeps_register (knows : known space.types) (registration : Registration) :
    Keeps known space (Act.after (register registration) space) := by
  refine Act.reads_get.moved_bind fun held got => ?_
  cases got
  refine Act.moved_bind (keeps_onJournal _ space) fun script between ran => ?_
  obtain ⟨journal, registered⟩ := onJournal_eq_ok ran
  exact keeps_addScript
    (Script.selectsInside_of_registered knows (Registration.register_eq_ok registered)) between

theorem after_register {registration : Registration} {script : Script}
    (given : registration.script space.types = .ok script) :
    ∃ journal, Act.after (register registration) space =
      { space with scripts := space.scripts ++ [script], journal } := by
  obtain ⟨journal, ran⟩ := Registration.register_of_ok given space.journal
  have entered : onJournal (registration.register space.types) space =
      .ok script { space with journal } := by
    rw [onJournal, Act.on, ran]
  rw [register, Act.after, Act.get_bind, Act.bind_of_ok _ entered]
  exact ⟨journal, rfl⟩

theorem keeps_loadScripts (knows : known space.types) (path : String) :
    Keeps known space (Act.after (loadScripts path) space) := by
  refine Act.reads_get.moved_bind fun held got => ?_
  cases got
  refine Act.moved_bind (keeps_onJournal _ space) fun scripts between ran => ?_
  obtain ⟨journal, loaded⟩ := onJournal_eq_ok ran
  refine keeps_addScripts (fun script member => ?_) between
  obtain ⟨registration, registered⟩ := Registration.loadFile_eq_ok loaded script member
  exact Script.selectsInside_of_registered knows registered

section

/-! Changes of the values of scripts look into the enumerations of now, and assign what was inside
at some time. -/

theorem admits_now (knows : known space.types) :
    Argument.Admits (· = space.types)
      (Argument.Carries known fun _ value => value.Inside known) :=
  (Argument.admits_carries Payload.inherits_inside).anti fun _ now => now ▸ knows

theorem carries_assignable {argument changed : Argument} {held : Payload}
    (assignable : Assignable past argument held)
    (given : argument.assign (.payload held) = .ok changed) :
    argument.Carries (· ∈ past) (fun _ value => value.Inside (· ∈ past)) changed :=
  Argument.carries_assign (fun _ _ => assignable) given

variable (settled : Settled past space)
include settled

theorem keeps_change {id : ScriptId} {change : ValueChange}
    (allowed : ∀ script, space.scripts[id]? = some script →
      change.Allowed (· = space.types) (Assignable past) script) :
    Keeps (· ∈ past) space (Act.after (onScript id change.act) space) := by
  refine keeps_onScript fun script there inside => inside.of_changed ?_
  exact change.changed (admits_now settled.now) carries_assignable (allowed script there)

theorem keeps_resetArgument (id : ScriptId) (index : Datum) (resetIds : Bool) :
    Keeps (· ∈ past) space
      (Act.after (onScript id (Script.onArgument index (Argument.reset space.types resetIds)))
        space) := by
  refine keeps_onScript fun script there inside => inside.of_changed ?_
  exact Script.changed_onArgument fun place _ =>
    (admits_now settled.now).restored resetIds place.2 rfl

theorem keeps_run {runner : Nat} {script : Option ScriptId} {invocation : Invocation}
    (edits : ∀ inUse id held, space.runners[runner]? = some inUse → script = some id →
      space.scripts[id]? = some held →
        RunDesk.Edits (Script.Reaches (· = space.types) (Assignable past)) inUse.dialog
          space.types invocation held) :
    Keeps (· ∈ past) space (Act.after (run runner script invocation) space) := by
  cases script with
  | none => exact refl_of (Keeps (· ∈ past)) space
  | some id =>
      refine (Act.reads_pure id).moved_bind fun chosen got => ?_
      cases got
      refine Act.reads_get.moved_bind fun held got => ?_
      cases got
      refine (reads_find _ _).moved_bind fun inUse found => ?_
      refine (reads_config _).moved_bind fun config _ => ?_
      refine keeps_onRun fun desk there inside => inside.of_changed ?_
      refine RunDesk.changed_run (admits_now settled.now).toUpdates
        ((admits_now settled.now).binding invocation) rfl ?_ inUse.interpret config
      intro dialog opened bound between bindings
      have reached := edits inUse id desk.script (find_eq_ok found) rfl there dialog opened bound
        between bindings
      exact reached.changed (admits_now settled.now) carries_assignable

theorem keeps_resetScript (runner : Nat) (id : ScriptId) :
    Keeps (· ∈ past) space (Act.after (resetScript runner id) space) := by
  refine Act.reads_get.moved_bind fun held got => ?_
  cases got
  refine (reads_find _ _).moved_bind fun inUse found => ?_
  refine (reads_config _).moved_bind fun config _ => ?_
  refine keeps_onRun fun desk there inside => inside.of_changed ?_
  have resets (resetIds : Bool) := RunDesk.moves_onScript
    (Script.moves_reset (admits_now settled.now).toUpdates rfl resetIds)
  exact Act.Moves.bind (Act.reads_ofExcept _).moves resets desk

end

/-! Runs. -/

theorem settled_step (settled : Settled past space) (step : Step past space next) :
    Settled (next.types :: past) next := by
  cases step with
  | registerEnum name values => exact settled_registerEnum settled name values rfl
  | register registration => exact settled.of_keeps (keeps_register settled.now registration)
  | loadScripts path => exact settled.of_keeps (keeps_loadScripts settled.now path)
  | create profile arguments made =>
      refine settled.of_keeps (keeps_addScript (Script.selectsInside_ofMade ?_) space)
      intro argument member
      obtain ⟨types, kind, label, default, rfl, given⟩ := made argument member
      exact ⟨space.types, kind, label, default, settled.now, given⟩
  | change id change allowed => exact settled.of_keeps (keeps_change settled allowed)
  | resetArgument id index resetIds =>
      exact settled.of_keeps (keeps_resetArgument settled id index resetIds)
  | run runner script invocation edits => exact settled.of_keeps (keeps_run settled edits)
  | resetScript runner id => exact settled.of_keeps (keeps_resetScript settled runner id)
  | destroy id =>
      exact settled.of_keeps (keeps_onScript fun _ _ inside => Script.selectsInside_destroy inside)

theorem settled_of_reached (reached : Reached past space) : Settled past space := by
  induction reached with
  | start space none =>
      refine ⟨List.mem_cons_self, fun types member name nicks looked => ?_, fun script member => ?_⟩
      · cases List.mem_singleton.mp member
        exact ⟨nicks, looked⟩
      · rw [none] at member
        cases member
  | step _ step ih => exact settled_step ih step

/-- A payload of an enumeration that is registered, selecting one of the values that there were
under its name at some time, and one of those of now unless there once were more. -/
def SelectedAmong (past : List EnumTypes) (now : EnumTypes) (payload : Payload) : Prop :=
  ∃ typeName selected nicks, payload = .enum typeName selected ∧
    now.nicks? typeName = .ok (some nicks) ∧
    (∃ types ∈ past, ∃ earlier, types.nicks? typeName = .ok (some earlier) ∧
      selected < earlier.length) ∧
    ((∀ types ∈ past, ∀ earlier, types.nicks? typeName = .ok (some earlier) →
      earlier.length ≤ nicks.length) → selected < nicks.length)

theorem Settled.selectedAmong (settled : Settled past space) {payload : Payload}
    (form : payload.kind = .enum) (inside : payload.Inside (· ∈ past)) :
    SelectedAmong past space.types payload := by
  cases payload <;> cases form
  next typeName selected =>
    obtain ⟨types, earlier, member, looked, among⟩ := inside
    obtain ⟨nicks, found⟩ := settled.names types member typeName earlier looked
    refine ⟨typeName, selected, nicks, rfl, found, ⟨types, member, earlier, looked, among⟩, ?_⟩
    exact fun noMore => among.trans_le (noMore types member earlier looked)

/-- Whatever enumerations are registered and replaced, and whatever is done to scripts, the default
and the value of every argument of an enumeration select one of the values that the enumeration had
when they were made. -/
theorem selections_among_earlier_values (reached : Reached past space) {script : Script}
    {argument : Argument} (inUse : script ∈ space.scripts) (filled : some argument ∈ script.slots)
    (chooses : argument.kind = .enum) :
    SelectedAmong past space.types argument.default ∧
      SelectedAmong past space.types argument.value := by
  have settled := settled_of_reached reached
  have within := settled.scripts script inUse argument filled
  have form : argument.kind.payloadKind = .enum := by
    rw [chooses]
    rfl
  obtain ⟨types, value, member, copied⟩ := within.copied
  have inside : argument.default.Inside (· ∈ past) := (Payload.inside_copy member copied).1
  exact ⟨settled.selectedAmong (within.defaultForm.trans form) inside,
    settled.selectedAmong (within.valueForm.trans form) within.carried⟩

end Workspace

end

namespace Workspace

def enumRegistration : Registration :=
  { name := .text "s", menuLabel := .text "", blurb := .text "", author := .text ""
    copyright := .text "", date := .text "", imageTypes := .text ""
    declarations := .list
      [.list [.text ArgKind.enum.token, .text "E", .list [.text "T", .text "c"]]] }

def enumRegistered : Workspace :=
  Act.after (registerEnum (.text "T") (.list [.text "a", .text "b", .text "c"])) empty

def threeValued : Workspace := Act.after (register enumRegistration) enumRegistered

def lastOfThree : Argument :=
  { kind := .enum, label := .text "E", default := .enum (.text "T") 2
    value := .enum (.text "T") 2 }

def oneValued : Workspace :=
  Act.after (registerEnum (.text "T") (.list [.text "x"])) threeValued

theorem reached_threeValued : ∃ past, Reached past threeValued :=
  ⟨_, .step (.step (.start empty rfl) (.registerEnum _ _)) (.register _)⟩

theorem registered_threeValued :
    ∃ journal, threeValued =
      { enumRegistered with scripts := [.ofArguments (.plain "s") [lastOfThree]], journal } := by
  have given : enumRegistration.script enumRegistered.types =
      .ok (.ofArguments (.plain "s") [lastOfThree]) := by
    refine Registration.script_of_ok rfl rfl rfl ?_
    exact (Except.bind_eq_ok _ _ _).mpr ⟨_, Registration.argument_of_token "s" 1 .enum "E" _, rfl⟩
  exact after_register given

theorem selections_among_earlier_values_three :
    ∃ past, Reached past threeValued ∧
      Script.ofArguments (.plain "s") [lastOfThree] ∈ threeValued.scripts ∧
      SelectedAmong past threeValued.types lastOfThree.default ∧
      SelectedAmong past threeValued.types lastOfThree.value := by
  obtain ⟨past, reached⟩ := reached_threeValued
  have inUse : Script.ofArguments (.plain "s") [lastOfThree] ∈ threeValued.scripts := by
    obtain ⟨journal, same⟩ := registered_threeValued
    rw [same]
    exact List.mem_singleton_self _
  exact ⟨past, reached, inUse,
    selections_among_earlier_values reached inUse List.mem_cons_self rfl⟩

/-- Once the three values are replaced by one, the third of them is still selected. -/
theorem selection_left_outside :
    ∃ past, Reached past oneValued ∧
      oneValued.scripts = [.ofArguments (.plain "s") [lastOfThree]] ∧
      ∃ nicks, oneValued.types.nicks? (.text "T") = .ok (some nicks) ∧ ¬ 2 < nicks.length := by
  obtain ⟨past, reached⟩ := reached_threeValued
  obtain ⟨journal, registered⟩ := registered_threeValued
  refine ⟨_, .step reached (.registerEnum _ _), ?_, ["x"], ?_, by decide⟩
  · rw [oneValued, (registerEnum_cases _ _ threeValued).1, registered]
  · rw [oneValued, registered]
    rfl

end Workspace

end ScriptCatalog
