import ScriptCatalog.Proofs.Script.Sharing
import ScriptCatalog.Proofs.Workspace.Selections

/-! Resets that fail. A default is checked against the enumerations of now when it is copied, and
the arguments before it have their defaults back by then. -/

namespace ScriptCatalog

section

variable [Platform]

namespace Argument

variable {types : EnumTypes} {argument after : Argument} {fault : Fault} {resetIds : Bool}

theorem reset_eq_error (failed : reset types resetIds argument = .error fault after) :
    (argument.kind.isItem && !resetIds) = false ∧ argument.default.copy types = .error fault ∧
      after = { argument with value := argument.value.release } := by
  rw [reset] at failed
  split at failed
  · cases failed
  · next given =>
      cases copied : argument.default.copy types with
      | ok value =>
          rw [copied] at failed
          cases failed
      | error cause =>
          rw [copied] at failed
          cases failed
          exact ⟨Bool.eq_false_iff.mpr given, rfl, rfl⟩

end Argument

namespace Payload

/-- Where an enumeration is registered, a selection is copied unless it is outside. -/
theorem outside_of_uncopied {types : EnumTypes} {typeName : Datum} {selected : Nat}
    {nicks : List String} {fault : Fault} (known : types.nicks? typeName = .ok (some nicks))
    (failed : (enum typeName selected).copy types = .error fault) : nicks.length ≤ selected := by
  by_contra inside
  rw [copy, makeEnum_of_lt known (Nat.lt_of_not_le inside)] at failed
  cases failed

end Payload

namespace Script

theorem eachArgument_eq_error {act : Act Argument Unit} {offset : Nat} {arguments : List Argument}
    {fault : Fault} {slots : List (Option Argument)}
    (failed : eachArgument (fun _ => act) offset (arguments.map some) = (.error fault, slots)) :
    ∃ earlier failing rest, arguments = earlier ++ failing :: rest ∧
      (∀ argument ∈ earlier, act argument = .ok () (Act.after act argument)) ∧
      act failing = .error fault (Act.after act failing) ∧
      slots = (earlier.map (Act.after act) ++ Act.after act failing :: rest).map some := by
  induction arguments generalizing offset slots with
  | nil => cases failed
  | cons argument arguments ih =>
      rw [List.map_cons, eachArgument] at failed
      cases ran : act argument with
      | ok value changed =>
          -- This argument is one of those before the failing one, which is among the others.
          rw [ran] at failed
          cases later : eachArgument (fun _ => act) (offset + 1) (arguments.map some) with
          | mk outcome others =>
              simp only [later, Prod.mk.injEq] at failed
              obtain ⟨rfl, rfl⟩ := failed
              obtain ⟨earlier, failing, rest, rfl, passed, stopped, rfl⟩ := ih later
              refine ⟨argument :: earlier, failing, rest, rfl, ?_, stopped, ?_⟩
              · refine List.forall_mem_cons.mpr ⟨?_, passed⟩
                rw [ran, Act.after_of_ok ran]
              · rw [List.map_cons, Act.after_of_ok ran]
                rfl
      | error cause changed =>
          rw [ran] at failed
          cases failed
          refine ⟨[], argument, arguments, rfl, List.forall_mem_nil _, ?_, ?_⟩
          · rw [ran, Act.after_of_error ran]
          · rw [Act.after_of_error ran]
            rfl

/-- The arguments of a script up to one that an action stops at are all as they were if each is. -/
theorem map_append_eq_self_iff {change : Argument → Argument} {earlier rest : List Argument}
    {failing stopped : Argument} :
    earlier.map change ++ stopped :: rest = earlier ++ failing :: rest ↔
      (∀ argument ∈ earlier, change argument = argument) ∧ stopped = failing := by
  induction earlier with
  | nil => simp
  | cons argument earlier ih =>
      rw [List.map_cons, List.cons_append, List.cons_append, List.cons.injEq, ih,
        List.forall_mem_cons, and_assoc]

theorem forArguments_eq_error {act : Act Argument Unit} (script : LiveScript)
    {arguments : List Argument} (filled : script.slots = arguments.map some) {fault : Fault}
    {after : Script}
    (failed : forArguments (fun _ => act) (live script) = .error fault after) :
    ∃ earlier failing rest, arguments = earlier ++ failing :: rest ∧
      (∀ argument ∈ earlier, act argument = .ok () (Act.after act argument)) ∧
      act failing = .error fault (Act.after act failing) ∧
      after = live { script with
        slots := (earlier.map (Act.after act) ++ Act.after act failing :: rest).map some } := by
  have ran : forArguments (fun _ => act) (live script) =
      Act.ofExcept (eachArgument (fun _ => act) 0 (arguments.map some)).1
        (setSlots (eachArgument (fun _ => act) 0 (arguments.map some)).2 (live script)) := by
    rw [← filled]
    rfl
  rw [ran] at failed
  cases each : eachArgument (fun _ => act) 0 (arguments.map some) with
  | mk outcome slots =>
      rw [each] at failed
      cases outcome with
      | ok value => cases failed
      | error cause =>
          cases failed
          obtain ⟨earlier, failing, rest, split, passed, stopped, rfl⟩ :=
            eachArgument_eq_error each
          exact ⟨earlier, failing, rest, split, passed, stopped, rfl⟩

theorem reset_eq_error {types : EnumTypes} {resetIds : Bool} {script : LiveScript}
    (free : script.held = false) {arguments : List Argument}
    (filled : script.slots = arguments.map some) {fault : Fault} {after : Script}
    (failed : reset types resetIds (live script) = .error fault after) :
    ∃ earlier failing rest, arguments = earlier ++ failing :: rest ∧
      (∀ argument ∈ earlier, argument.reset types resetIds =
        .ok () (Act.after (Argument.reset types resetIds) argument)) ∧
      failing.reset types resetIds =
        .error fault (Act.after (Argument.reset types resetIds) failing) ∧
      after = live { script with
        slots := (earlier.map (Act.after (Argument.reset types resetIds)) ++
          Act.after (Argument.reset types resetIds) failing :: rest).map some } := by
  have inside : (do let _ ← Script.arguments; forArguments fun _ => Argument.reset types resetIds :
      ScriptAct Unit) (holdOf script) =
        forArguments (fun _ => Argument.reset types resetIds) (holdOf script) :=
    Act.bind_of_ok _ (arguments_of_slots { script with held := true } arguments filled)
  rw [reset, exclusively_free _ _ free, Act.ensuring, inside] at failed
  cases ran : forArguments (fun _ => Argument.reset types resetIds) (holdOf script) with
  | ok value next =>
      rw [ran] at failed
      cases failed
  | error cause next =>
      rw [ran] at failed
      cases failed
      obtain ⟨earlier, failing, rest, split, passed, stopped, rfl⟩ :=
        forArguments_eq_error { script with held := true } filled ran
      refine ⟨earlier, failing, rest, split, passed, stopped, ?_⟩
      rw [letGo, free]

theorem live_slots_eq_iff {script : LiveScript} {arguments others : List Argument}
    (filled : script.slots = arguments.map some) :
    live { script with slots := others.map some } = live script ↔ others = arguments := by
  obtain ⟨profile, slots, held⟩ := script
  cases filled
  simp only [live.injEq, LiveScript.mk.injEq, true_and, and_true]
  exact (List.map_injective_iff.mpr fun _ _ => Option.some.inj).eq_iff

/-- A reset that fails, if it is not for a script in use elsewhere, stops at an argument whose
default cannot be copied. The arguments before that one are reset, and it has given up what its
value owned; those after it are as they were, as long as no payload is shared. In whatever state a
workspace can be, it is an argument of an enumeration that has fewer values by now, and only those
before it are changed. -/
theorem failed_reset_stops_midway {objects : Objects} (unshared : objects.Unshared)
    (types : EnumTypes) (resetIds : Bool) (script : LiveScript) (arguments : List Argument)
    (filled : script.slots = arguments.map some) {fault : Fault} {after : Script}
    (failed : resetAmong objects types resetIds (live script) = .error fault after) :
    (script.held = true ∧ after = live script) ∨
    script.held = false ∧ ∃ earlier failing rest, arguments = earlier ++ failing :: rest ∧
      (∀ argument ∈ earlier, argument.reset types resetIds =
        .ok () (Act.after (Argument.reset types resetIds) argument)) ∧
      (failing.kind.isItem && !resetIds) = false ∧ failing.default.copy types = .error fault ∧
      after = live { script with
        slots := (earlier.map (Act.after (Argument.reset types resetIds)) ++
          { failing with value := failing.value.release } :: rest).map some } ∧
      (after = live script ↔
        (∀ argument ∈ earlier, Act.after (Argument.reset types resetIds) argument = argument) ∧
          failing.value.release = failing.value) ∧
      ∀ past space, Workspace.Reached past space → space.types = types →
        live script ∈ space.scripts →
          failing.kind = .enum ∧ failing.value.release = failing.value ∧
            ∃ typeName selected nicks, failing.default = .enum typeName selected ∧
              types.nicks? typeName = .ok (some nicks) ∧ nicks.length ≤ selected := by
  rw [resetAmong_of_unshared unshared] at failed
  rcases Bool.eq_false_or_eq_true script.held with held | free
  · rcases exclusively_cases _ (live script) with ⟨cause, refused⟩ | ⟨other, same, free⟩
    · rw [reset, refused] at failed
      cases failed
      exact .inl ⟨held, rfl⟩
    · cases same
      rw [held] at free
      cases free
  · obtain ⟨earlier, failing, rest, rfl, passed, stopped, rfl⟩ := reset_eq_error free filled failed
    obtain ⟨given, uncopied, released⟩ := Argument.reset_eq_error stopped
    rw [released]
    refine .inr ⟨free, earlier, failing, rest, rfl, passed, given, uncopied, rfl, ?_, ?_⟩
    · rw [live_slots_eq_iff filled, map_append_eq_self_iff]
      refine and_congr_right fun _ => ⟨fun same => congrArg Argument.value same, fun same => ?_⟩
      rw [same]
    · intro past space reached now inUse
      cases now
      have settled := Workspace.settled_of_reached reached
      have there : some failing ∈ script.slots := by
        rw [filled]
        exact List.mem_map_of_mem (List.mem_append_right _ List.mem_cons_self)
      have within := settled.scripts _ inUse failing there
      have form := within.enum_of_uncopied uncopied
      obtain ⟨types, value, member, copied⟩ := within.copied
      obtain ⟨typeName, selected, nicks, default, known, _⟩ :=
        settled.selectedAmong (within.defaultForm.trans form) (Payload.inside_copy member copied).1
      rw [default] at uncopied
      exact ⟨ArgKind.eq_enum_of_payloadKind form,
        Payload.release_of_enum (within.valueForm.trans form), typeName, selected, nicks, default,
        known, Payload.outside_of_uncopied known uncopied⟩

end Script

namespace Workspace

end Workspace

end

namespace Workspace

/-! A text and the third value of an enumeration, which is then registered with one value. -/

def labelled (words : String) : Argument :=
  { kind := .string, label := .text "A", default := .text (.text "x")
    value := .text (.text words) }

def labelledScript (words : String) : Script :=
  .ofArguments (.plain "s") [labelled words, lastOfThree]

def labelledRegistration : Registration :=
  { enumRegistration with
    declarations := .list [
      .list [.text ArgKind.string.token, .text "A", .text "x"],
      .list [.text ArgKind.enum.token, .text "E", .list [.text "T", .text "c"]]] }

def labelledSpace : Workspace := Act.after (register labelledRegistration) enumRegistered

def relabelled : Workspace :=
  Act.after (onScript 0
    (ValueChange.setFromParam labelledSpace.types (.int 0) (.text "changed")).act) labelledSpace

def shrunk : Workspace := Act.after (registerEnum (.text "T") (.list [.text "x"])) relabelled

theorem labelledSpace_eq : ∃ journal, labelledSpace =
    { enumRegistered with scripts := [labelledScript "x"], journal } := by
  have given : labelledRegistration.script enumRegistered.types = .ok (labelledScript "x") := by
    refine Registration.script_of_ok rfl rfl rfl ?_
    refine (Except.bind_eq_ok _ _ _).mpr
      ⟨_, Registration.argument_of_token "s" 1 .string "A" (.text "x"), ?_⟩
    refine (Except.bind_eq_ok _ _ _).mpr ⟨_, ?_, rfl⟩
    exact (Except.bind_eq_ok _ _ _).mpr ⟨_, Registration.argument_of_token "s" 2 .enum "E" _, rfl⟩
  exact after_register given

theorem reached_shrunk : ∃ past, Reached past shrunk := by
  have registered : ∃ past, Reached past labelledSpace :=
    ⟨_, .step (.step (.start empty rfl) (.registerEnum _ _)) (.register _)⟩
  obtain ⟨past, reached⟩ := registered
  exact ⟨_, .step (.step reached (.change 0 (.setFromParam _ _ _) fun _ _ => rfl))
    (.registerEnum _ _)⟩

theorem inUse_shrunk : labelledScript "changed" ∈ shrunk.scripts := by
  obtain ⟨journal, same⟩ := labelledSpace_eq
  rw [shrunk, relabelled, same]
  exact List.mem_singleton_self (labelledScript "changed")

theorem reset_shrunk :
    ∃ fault, Script.reset shrunk.types true (labelledScript "changed") =
      .error fault (labelledScript "x") := by
  obtain ⟨journal, same⟩ := labelledSpace_eq
  rw [shrunk, relabelled, same]
  exact ⟨_, rfl⟩

theorem failed_reset_stops_midway_shrunk :
    ∃ past fault, Reached past shrunk ∧ labelledScript "changed" ∈ shrunk.scripts ∧
      Objects.separate.Unshared ∧
      Script.resetAmong .separate shrunk.types true (labelledScript "changed") =
        .error fault (labelledScript "x") ∧
      ∃ earlier failing rest, [labelled "changed", lastOfThree] = earlier ++ failing :: rest ∧
        failing.kind = .enum := by
  obtain ⟨past, reached⟩ := reached_shrunk
  obtain ⟨fault, failed⟩ := reset_shrunk
  have unshared := Objects.unshared_separate
  rw [← Script.resetAmong_of_unshared unshared] at failed
  rcases Script.failed_reset_stops_midway unshared shrunk.types true _
    [labelled "changed", lastOfThree] rfl failed with
    ⟨held, _⟩ | ⟨_, earlier, failing, rest, split, _, _, _, _, _, chooses⟩
  · cases held
  · exact ⟨past, fault, reached, inUse_shrunk, unshared, failed, earlier, failing, rest, split,
      (chooses past shrunk reached rfl inUse_shrunk).1⟩

/-- A text whose value was released. -/
def unlabelled : Argument := { labelled "x" with value := .text .null }

/-- The text is what it was declared as again, although the reset fails. A later text that is the
same object is lost then. -/
theorem failed_reset_changes_text :
    ∃ past fault, Reached past shrunk ∧ labelledScript "changed" ∈ shrunk.scripts ∧
      Script.reset shrunk.types true (labelledScript "changed") =
        .error fault (labelledScript "x") ∧
      (labelled "x").value ≠ (labelled "changed").value ∧
      ∃ other, Script.resetAmong (.sharedValues 0 2) shrunk.types true
          (.ofArguments (.plain "s") [labelled "changed", lastOfThree, labelled "changed"]) =
        .error other (.ofArguments (.plain "s") [labelled "x", lastOfThree, unlabelled]) := by
  obtain ⟨past, reached⟩ := reached_shrunk
  obtain ⟨fault, failed⟩ := reset_shrunk
  refine ⟨past, fault, reached, inUse_shrunk, failed, by simp [labelled], ?_⟩
  obtain ⟨journal, same⟩ := labelledSpace_eq
  rw [shrunk, relabelled, same]
  exact ⟨_, rfl⟩

end Workspace

end ScriptCatalog
