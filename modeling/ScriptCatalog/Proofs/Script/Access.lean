import ScriptCatalog.Script.Basic
import ScriptCatalog.Proofs.Act

/-! Having a script for oneself. What is done to a script that is held or destroyed fails and
changes nothing; otherwise the script is given back as it is left. -/

namespace ScriptCatalog

def Profile.plain (name : String) : Profile :=
  { name := .text name, menuLabel := .text "", blurb := .text "", author := .text ""
    copyright := .text "", date := .text "", imageTypes := .text "" }

namespace Script

def holdOf (script : LiveScript) : Script := live { script with held := true }

theorem acquire_live (script : LiveScript) :
    acquire (live script) =
      if script.held then .error (.concurrentAccess script.profile.name) (live script)
      else .ok () (holdOf script) := by
  obtain ⟨profile, slots, held⟩ := script
  cases held <;> rfl

theorem acquire_destroyed : acquire destroyed = .error .destroyedScript destroyed := rfl

variable {α : Type}

theorem exclusively_free (act : ScriptAct α) (script : LiveScript) (free : script.held = false) :
    exclusively act (live script) = act.ensuring letGo (holdOf script) := by
  have acquired : acquire (live script) = .ok () (holdOf script) := by
    rw [acquire_live, free]
    rfl
  exact Act.bind_of_ok _ acquired

/-- Only a script that nobody holds can be had for oneself. -/
theorem exclusively_cases (act : ScriptAct α) (script : Script) :
    (∃ fault, exclusively act script = .error fault script) ∨
      ∃ free : LiveScript, script = live free ∧ free.held = false := by
  cases script with
  | destroyed => exact .inl ⟨_, Act.bind_of_error _ acquire_destroyed⟩
  | live script =>
      cases held : script.held with
      | true =>
          refine .inl ⟨.concurrentAccess script.profile.name, Act.bind_of_error _ ?_⟩
          rw [acquire_live, held]
          rfl
      | false => exact .inr ⟨script, rfl, held⟩

theorem letGo_holdOf (script : LiveScript) (free : script.held = false) :
    letGo (holdOf script) = live script := by
  obtain ⟨profile, slots, held⟩ := script
  cases free
  rfl

theorem ensuring_of_ok (act : ScriptAct α) {state next : Script} {value : α}
    (ran : act state = .ok value next) :
    act.ensuring letGo state = .ok value next.letGo := by
  simp only [Act.ensuring, ran]

theorem ensuring_of_error (act : ScriptAct α) {state next : Script} {fault : Fault}
    (failed : act state = .error fault next) :
    act.ensuring letGo state = .error fault next.letGo := by
  simp only [Act.ensuring, failed]

theorem exclusively_ok {act : ScriptAct α} {script next : LiveScript} {value : α}
    (free : script.held = false) (given : next.held = false)
    (ran : act (holdOf script) = .ok value (holdOf next)) :
    exclusively act (live script) = .ok value (live next) := by
  rw [exclusively_free act script free, ensuring_of_ok act ran, letGo_holdOf next given]

theorem exclusively_error {act : ScriptAct α} {script next : LiveScript} {fault : Fault}
    (free : script.held = false) (given : next.held = false)
    (failed : act (holdOf script) = .error fault (holdOf next)) :
    exclusively act (live script) = .error fault (live next) := by
  rw [exclusively_free act script free, ensuring_of_error act failed, letGo_holdOf next given]

theorem reads_exclusively {act : ScriptAct α} (reads : act.Reads) : (exclusively act).Reads := by
  intro script
  rcases exclusively_cases act script with failed | ⟨free, rfl, notHeld⟩
  · exact .inr failed
  · rw [exclusively_free act free notHeld]
    rcases reads (holdOf free) with ⟨value, ran⟩ | ⟨fault, failed⟩
    · refine .inl ⟨value, ?_⟩
      rw [ensuring_of_ok act ran, letGo_holdOf free notHeld]
    · refine .inr ⟨fault, ?_⟩
      rw [ensuring_of_error act failed, letGo_holdOf free notHeld]

theorem exclusively_eq_ok {act : ScriptAct α} {script after : Script} {value : α}
    (ran : exclusively act script = .ok value after) :
    ∃ free next, script = live free ∧ free.held = false ∧
      act (holdOf free) = .ok value next ∧ after = next.letGo := by
  rcases exclusively_cases act script with ⟨fault, failed⟩ | ⟨free, rfl, notHeld⟩
  · rw [failed] at ran
    cases ran
  · rw [exclusively_free act free notHeld] at ran
    cases inside : act (holdOf free) with
    | ok value next =>
        rw [ensuring_of_ok act inside] at ran
        cases ran
        exact ⟨free, next, rfl, notHeld, inside, rfl⟩
    | error fault next =>
        rw [ensuring_of_error act inside] at ran
        cases ran

/-! Reading what a script says and holds. -/

theorem reads_alive : alive.Reads := by
  intro script
  cases script with
  | destroyed => exact .inr ⟨_, rfl⟩
  | live script => exact .inl ⟨script, rfl⟩

theorem reads_told (part : Profile → Datum) : (told part).Reads :=
  (reads_alive.bind fun _ => Act.reads_pure _).bind fun _ =>
    (Act.reads_require _ _).bind fun _ => Act.reads_pure _

theorem reads_name : name.Reads := reads_told _

theorem told_text (part : Profile → Datum) {script : LiveScript} {words : String}
    (said : part script.profile = .text words) :
    told part (live script) = .ok (.text words) (live script) := by
  have there : (!(part script.profile).isNull) = true := by
    rw [said]
    rfl
  rw [← said]
  exact Act.bind_of_ok _ (Act.require_of_true there _ _)

theorem told_eq_ok {part : Profile → Datum} {script : LiveScript} {after : Script} {said : Datum}
    (ran : told part (live script) = .ok said after) : said = part script.profile := by
  obtain ⟨_, _, profile, required⟩ := (Act.bind_eq_ok _ _ _ _ _).mp ran
  cases profile
  obtain ⟨_, _, _, given⟩ := (Act.bind_eq_ok _ _ _ _ _).mp required
  cases given
  rfl

theorem reads_arguments : arguments.Reads := by
  refine reads_alive.bind fun script => ?_
  cases firstUndefined script.slots with
  | none => exact Act.reads_pure _
  | some index => exact Act.reads_throw _

theorem firstUndefined_map_some (arguments : List Argument) :
    firstUndefined (arguments.map some) = none := by
  simp [firstUndefined]

theorem filterMap_map_some (arguments : List Argument) :
    (arguments.map some).filterMap id = arguments := by
  simp

theorem slots_of_firstUndefined (slots : List (Option Argument))
    (complete : firstUndefined slots = none) : slots = (slots.filterMap id).map some := by
  have filled : ∀ slot ∈ slots, slot.isNone = false := List.findIdx?_eq_none_iff.mp complete
  clear complete
  induction slots with
  | nil => rfl
  | cons slot slots ih =>
      have others := ih fun other member => filled other (by simp [member])
      cases slot with
      | none => exact absurd (filled none (by simp)) (by decide)
      | some argument =>
          change some argument :: slots = some argument :: (slots.filterMap id).map some
          rw [← others]

theorem arguments_of_slots (script : LiveScript) (arguments : List Argument)
    (filled : script.slots = arguments.map some) :
    Script.arguments (live script) = .ok arguments (live script) := by
  obtain ⟨profile, slots, held⟩ := script
  cases filled
  refine (Act.bind_of_ok _ (rfl : alive _ = .ok _ _)).trans ?_
  simp only [firstUndefined_map_some, filterMap_map_some]
  rfl

theorem arguments_eq_ok {script : LiveScript} {after : Script} {arguments : List Argument}
    (ran : Script.arguments (live script) = .ok arguments after) :
    script.slots = arguments.map some := by
  obtain ⟨whole, _, alive, given⟩ := (Act.bind_eq_ok _ _ _ _ _).mp ran
  cases alive
  cases complete : firstUndefined script.slots with
  | none =>
      simp only [complete] at given
      cases given
      exact slots_of_firstUndefined script.slots complete
  | some index =>
      simp only [complete] at given
      cases given

theorem ofArguments_inj {profile other : Profile} {arguments others : List Argument}
    (same : ofArguments profile arguments = ofArguments other others) :
    profile = other ∧ arguments = others := by
  simp only [ofArguments, Script.live.injEq, LiveScript.mk.injEq] at same
  refine ⟨same.1, ?_⟩
  have slots := congrArg (List.filterMap id) same.2.1
  rw [filterMap_map_some, filterMap_map_some] at slots
  exact slots

theorem ofArguments_eq (script : LiveScript) (arguments : List Argument)
    (free : script.held = false) (filled : script.slots = arguments.map some) :
    live script = ofArguments script.profile arguments := by
  obtain ⟨profile, slots, held⟩ := script
  cases free
  cases filled
  rfl

end Script

end ScriptCatalog
