import Mathlib.Data.List.Forall2
import Mathlib.Order.Defs.Unbundled
import ScriptCatalog.Act

/-! Running actions step by step, actions that only read the state, and relations between the states
before and after. -/

namespace ScriptCatalog

namespace Act

variable {σ τ α β : Type}

theorem bind_of_ok {act : Act σ α} {state between : σ} {value : α} (next : α → Act σ β)
    (ran : act state = .ok value between) : (act >>= next) state = next value between := by
  simp only [bind, EStateM.bind, ran]

theorem bind_of_error {act : Act σ α} {state between : σ} {fault : Fault} (next : α → Act σ β)
    (failed : act state = .error fault between) :
    (act >>= next) state = .error fault between := by
  simp only [bind, EStateM.bind, failed]

theorem get_bind (next : σ → Act σ β) (state : σ) :
    ((get : Act σ σ) >>= next) state = next state state := rfl

theorem modify_bind (change : σ → σ) (next : Unit → Act σ β) (state : σ) :
    ((modify change : Act σ Unit) >>= next) state = next () (change state) := rfl

theorem ofExcept_ok_bind (value : α) (next : α → Act σ β) (state : σ) :
    (ofExcept (.ok value) >>= next) state = next value state := rfl

theorem bind_eq_ok (act : Act σ α) (next : α → Act σ β) (state final : σ) (value : β) :
    (act >>= next) state = .ok value final ↔
      ∃ middle between, act state = .ok middle between ∧ next middle between = .ok value final := by
  cases ran : act state with
  | ok middle between =>
      rw [bind_of_ok next ran]
      constructor
      · exact fun finished => ⟨middle, between, rfl, finished⟩
      · rintro ⟨_, _, same, finished⟩
        cases same
        exact finished
  | error fault between =>
      rw [bind_of_error next ran]
      constructor
      · intro failed
        cases failed
      · rintro ⟨_, _, same, _⟩
        cases same

theorem bind_eq_error (act : Act σ α) (next : α → Act σ β) (state final : σ) (fault : Fault) :
    (act >>= next) state = .error fault final ↔
      act state = .error fault final ∨
        ∃ middle between, act state = .ok middle between ∧
          next middle between = .error fault final := by
  cases ran : act state with
  | ok middle between =>
      rw [bind_of_ok next ran]
      constructor
      · exact fun failed => .inr ⟨middle, between, rfl, failed⟩
      · rintro (failed | ⟨_, _, same, failed⟩)
        · cases failed
        · cases same
          exact failed
  | error fault between =>
      rw [bind_of_error next ran]
      constructor
      · intro failed
        cases failed
        exact .inl rfl
      · rintro (failed | ⟨_, _, same, _⟩)
        · cases failed
          rfl
        · cases same

theorem ofExcept_eq_ok (outcome : Except Fault α) (state final : σ) (value : α) :
    ofExcept outcome state = .ok value final ↔ outcome = .ok value ∧ state = final := by
  cases outcome with
  | ok held =>
      change EStateM.Result.ok held state = .ok value final ↔ _
      simp
  | error fault =>
      change EStateM.Result.error fault state = .ok value final ↔ _
      simp

theorem ofExcept_state {outcome : Except Fault α} {state final : σ}
    (ran : (∃ value, ofExcept outcome state = .ok value final) ∨
      ∃ fault, ofExcept outcome state = .error fault final) : state = final := by
  cases outcome with
  | ok held =>
      rcases ran with ⟨_, ran⟩ | ⟨_, failed⟩
      · cases ran
        rfl
      · cases failed
  | error fault =>
      rcases ran with ⟨_, ran⟩ | ⟨_, failed⟩
      · cases ran
      · cases failed
        rfl

theorem bind_ofExcept_eq_ok (outcome : Except Fault α) (next : α → Act σ β) (state final : σ)
    (value : β) :
    (ofExcept outcome >>= next) state = .ok value final ↔
      ∃ middle, outcome = .ok middle ∧ next middle state = .ok value final := by
  rw [bind_eq_ok]
  constructor
  · rintro ⟨middle, between, ran, finished⟩
    obtain ⟨given, rfl⟩ := (ofExcept_eq_ok _ _ _ _).mp ran
    exact ⟨middle, given, finished⟩
  · rintro ⟨middle, given, finished⟩
    exact ⟨middle, state, (ofExcept_eq_ok _ _ _ _).mpr ⟨given, rfl⟩, finished⟩

theorem require_of_true {condition : Bool} (holds : condition = true) (fault : Fault) (state : σ) :
    require condition fault state = .ok () state := by
  rw [holds]
  rfl

/-- The state that is left, whether there is a value or a fault. -/
def stateOf : EStateM.Result Fault σ α → σ
  | .ok _ next => next
  | .error _ next => next

def after (act : Act σ α) (state : σ) : σ := stateOf (act state)

theorem after_of_ok {act : Act σ α} {state next : σ} {value : α}
    (ran : act state = .ok value next) : after act state = next := by
  rw [after, ran, stateOf]

theorem after_of_error {act : Act σ α} {state next : σ} {fault : Fault}
    (failed : act state = .error fault next) : after act state = next := by
  rw [after, failed, stateOf]

/-- What comes of an action, whatever state it leaves. -/
def outcomeOf : EStateM.Result Fault σ α → Except Fault α
  | .ok value _ => .ok value
  | .error fault _ => .error fault

def outcome (act : Act σ α) (state : σ) : Except Fault α := outcomeOf (act state)

theorem outcome_of_ok {act : Act σ α} {state next : σ} {value : α}
    (ran : act state = .ok value next) : outcome act state = .ok value := by
  rw [outcome, ran, outcomeOf]

theorem outcome_of_error {act : Act σ α} {state next : σ} {fault : Fault}
    (failed : act state = .error fault next) : outcome act state = .error fault := by
  rw [outcome, failed, outcomeOf]

theorem outcome_of_ofExcept {act : Act σ α} {state next : σ} {given : Except Fault α}
    (ran : act state = ofExcept given next) :
    outcome act state = given ∧ after act state = next := by
  cases given with
  | ok value => exact ⟨outcome_of_ok ran, after_of_ok ran⟩
  | error fault => exact ⟨outcome_of_error ran, after_of_error ran⟩

theorem ok_of_outcome {act : Act σ α} {state : σ} {value : α}
    (given : outcome act state = .ok value) : ∃ next, act state = .ok value next := by
  unfold outcome at given
  cases ran : act state with
  | ok held next =>
      rw [ran] at given
      cases given
      exact ⟨next, rfl⟩
  | error fault next =>
      rw [ran] at given
      cases given

theorem error_of_outcome {act : Act σ α} {state : σ} {fault : Fault}
    (given : outcome act state = .error fault) : ∃ next, act state = .error fault next := by
  unfold outcome at given
  cases ran : act state with
  | ok held next =>
      rw [ran] at given
      cases given
  | error cause next =>
      rw [ran] at given
      cases given
      exact ⟨next, rfl⟩

/-- An action of which always the same comes. -/
def Blind (act : Act σ α) : Prop := ∀ state other, outcome act state = outcome act other

theorem blind_pure (value : α) : Blind (pure value : Act σ α) := fun _ _ => rfl

theorem blind_throw (fault : Fault) : Blind (throw fault : Act σ α) := fun _ _ => rfl

theorem blind_modify (change : σ → σ) : Blind (modify change : Act σ Unit) := fun _ _ => rfl

theorem blind_ofExcept (given : Except Fault α) : Blind (ofExcept given : Act σ α) := by
  intro state other
  cases given <;> rfl

theorem Blind.bind {act : Act σ α} {next : α → Act σ β} (first : Blind act)
    (others : ∀ value, Blind (next value)) : Blind (act >>= next) := by
  intro state other
  have same := first state other
  cases ran : outcome act state with
  | ok value =>
      obtain ⟨between, ranFirst⟩ := ok_of_outcome ran
      obtain ⟨betweenOther, ranOther⟩ := ok_of_outcome (same.symm.trans ran)
      rw [outcome, outcome, bind_of_ok next ranFirst, bind_of_ok next ranOther]
      exact others value between betweenOther
  | error fault =>
      obtain ⟨between, failedFirst⟩ := error_of_outcome ran
      obtain ⟨betweenOther, failedOther⟩ := error_of_outcome (same.symm.trans ran)
      rw [outcome_of_error (bind_of_error next failedFirst),
        outcome_of_error (bind_of_error next failedOther)]

/-- An action that leaves every state as it is. -/
def Reads (act : Act σ α) : Prop :=
  ∀ state, (∃ value, act state = .ok value state) ∨ ∃ fault, act state = .error fault state

theorem reads_pure (value : α) : Reads (pure value : Act σ α) := fun _ => .inl ⟨value, rfl⟩

theorem reads_throw (fault : Fault) : Reads (throw fault : Act σ α) := fun _ => .inr ⟨fault, rfl⟩

theorem reads_throw_bind (fault : Fault) (next : α → Act σ β) :
    Reads ((throw fault : Act σ α) >>= next) := fun _ => .inr ⟨fault, rfl⟩

theorem reads_get : Reads (get : Act σ σ) := fun state => .inl ⟨state, rfl⟩

theorem reads_ofExcept (outcome : Except Fault α) : Reads (ofExcept outcome : Act σ α) := by
  intro state
  cases outcome with
  | ok value => exact .inl ⟨value, rfl⟩
  | error fault => exact .inr ⟨fault, rfl⟩

theorem reads_require (condition : Bool) (fault : Fault) :
    Reads (require condition fault : Act σ Unit) := by
  intro state
  cases condition with
  | false => exact .inr ⟨fault, rfl⟩
  | true => exact .inl ⟨(), rfl⟩

theorem Reads.bind {act : Act σ α} {next : α → Act σ β} (first : Reads act)
    (others : ∀ value, Reads (next value)) : Reads (act >>= next) := by
  intro state
  rcases first state with ⟨value, ran⟩ | ⟨fault, failed⟩
  · rw [bind_of_ok next ran]
    exact others value state
  · exact .inr ⟨fault, bind_of_error next failed⟩

/-- After an action that only reads either nothing more happens or what follows runs as if there
had been no such action. -/
theorem Reads.bind_elim {P : EStateM.Result Fault σ β → Prop} {act : Act σ α}
    {next : α → Act σ β} {state : σ} (reads : Reads act)
    (failed : ∀ fault, P (.error fault state))
    (ran : ∀ value, act state = .ok value state → P (next value state)) :
    P ((act >>= next) state) := by
  rcases reads state with ⟨value, given⟩ | ⟨fault, given⟩
  · rw [bind_of_ok next given]
    exact ran value given
  · rw [bind_of_error next given]
    exact failed fault

theorem Reads.after_eq {act : Act σ α} (reads : Reads act) (state : σ) :
    after act state = state := by
  rcases reads state with ⟨_, ran⟩ | ⟨_, failed⟩
  · exact after_of_ok ran
  · exact after_of_error failed

theorem Reads.state_eq {act : Act σ α} (reads : Reads act) {state final : σ} {value : α}
    (ran : act state = .ok value final) : final = state := by
  rcases reads state with ⟨_, same⟩ | ⟨_, failed⟩
  · rw [ran] at same
    cases same
    rfl
  · rw [ran] at failed
    cases failed

theorem Reads.state_eq_of_error {act : Act σ α} (reads : Reads act) {state final : σ}
    {fault : Fault} (failed : act state = .error fault final) : final = state := by
  rcases reads state with ⟨_, ran⟩ | ⟨_, same⟩
  · rw [failed] at ran
    cases ran
  · rw [failed] at same
    cases same
    rfl

/-- An action that changes nothing if it fails. -/
def Atomic (act : Act σ α) : Prop :=
  ∀ state final fault, act state = .error fault final → final = state

theorem Reads.atomic {act : Act σ α} (reads : Reads act) : Atomic act :=
  fun _ _ _ failed => reads.state_eq_of_error failed

theorem Reads.bind_atomic {act : Act σ α} {next : α → Act σ β} (reads : Reads act)
    (others : ∀ value, Atomic (next value)) : Atomic (act >>= next) := by
  intro state final fault failed
  rcases (bind_eq_error _ _ _ _ _).mp failed with failed | ⟨value, between, ran, failed⟩
  · exact reads.state_eq_of_error failed
  · cases reads.state_eq ran
    exact others value state final fault failed

/-- What cannot fail can follow. -/
theorem Atomic.bind {act : Act σ α} {next : α → Act σ β} (first : Atomic act)
    (others : ∀ value state final fault, next value state ≠ .error fault final) :
    Atomic (act >>= next) := by
  intro state final fault failed
  rcases (bind_eq_error _ _ _ _ _).mp failed with failed | ⟨value, between, _, failed⟩
  · exact first state final fault failed
  · exact absurd failed (others value between final fault)

/-- An action that fails where it starts, for a reason of some sort. -/
def Stops (why : Fault → Prop) (act : Act σ α) (state : σ) : Prop :=
  ∃ fault, act state = .error fault state ∧ why fault

theorem Stops.bind {why : Fault → Prop} {act : Act σ α} {state : σ} (stops : Stops why act state)
    (next : α → Act σ β) : Stops why (act >>= next) state := by
  obtain ⟨fault, failed, reason⟩ := stops
  exact ⟨fault, bind_of_error next failed, reason⟩

theorem Reads.stops_bind {why : Fault → Prop} {act : Act σ α} {next : α → Act σ β} {state : σ}
    (reads : act.Reads) (before : ∀ fault, act state = .error fault state → why fault)
    (ran : ∀ value, act state = .ok value state → Stops why (next value) state) :
    Stops why (act >>= next) state := by
  rcases reads state with ⟨value, given⟩ | ⟨fault, failed⟩
  · obtain ⟨fault, failed, reason⟩ := ran value given
    exact ⟨fault, (bind_of_ok next given).trans failed, reason⟩
  · exact ⟨fault, bind_of_error next failed, before fault failed⟩

/-- An action after which the state is in some relation to what it was before, be it that the action
fails on the way. -/
def Moves (moved : σ → σ → Prop) (act : Act σ α) : Prop := ∀ state, moved state (after act state)

section

variable {moved : σ → σ → Prop} [IsPreorder σ moved]

theorem Reads.moves {act : Act σ α} (reads : Reads act) : Moves moved act := by
  intro state
  rw [reads.after_eq]
  exact refl_of moved state

theorem moved_bind {act : Act σ α} {next : α → Act σ β} {state : σ}
    (first : moved state (after act state))
    (others : ∀ value between, act state = .ok value between →
      moved between (after (next value) between)) :
    moved state (after (act >>= next) state) := by
  cases ran : act state with
  | ok value between =>
      rw [after_of_ok ran] at first
      rw [after, bind_of_ok next ran]
      exact trans_of moved first (others value between ran)
  | error fault between =>
      rw [after_of_error ran] at first
      rw [after, bind_of_error next ran]
      exact first

theorem Moves.bind {act : Act σ α} {next : α → Act σ β} (first : Moves moved act)
    (others : ∀ value, Moves moved (next value)) : Moves moved (act >>= next) :=
  fun state => moved_bind (first state) fun value between _ => others value between

/-- After an action that only reads either nothing more happens, or what follows does. -/
theorem Reads.moved_bind {act : Act σ α} {next : α → Act σ β} {state : σ} (reads : Reads act)
    (ran : ∀ value, act state = .ok value state → moved state (after (next value) state)) :
    moved state (after (act >>= next) state) := by
  refine Act.moved_bind (reads.moves state) fun value between given => ?_
  cases reads.state_eq given
  exact ran value given

end

/-- An action on a part leaves the whole with that part as the action leaves it. -/
theorem after_on (part : σ → τ) (replace : τ → σ → σ) (act : Act τ α) (state : σ) :
    after (act.on part replace) state = replace (after act (part state)) state := by
  cases ran : act (part state) with
  | ok value next => simp only [after, Act.on, ran, stateOf]
  | error fault next => simp only [after, Act.on, ran, stateOf]

theorem outcome_on (part : σ → τ) (replace : τ → σ → σ) (act : Act τ α) (state : σ) :
    outcome (act.on part replace) state = outcome act (part state) := by
  cases ran : act (part state) with
  | ok value next => simp only [outcome, Act.on, ran, outcomeOf]
  | error fault next => simp only [outcome, Act.on, ran, outcomeOf]

theorem after_of_eq_on {part : σ → τ} {replace : τ → σ → σ} {act : Act τ α} {whole : Act σ α}
    {state : σ} (same : whole state = act.on part replace state) :
    after whole state = replace (after act (part state)) state :=
  (congrArg stateOf same).trans (after_on part replace act state)

theorem outcome_of_eq_on {part : σ → τ} {replace : τ → σ → σ} {act : Act τ α} {whole : Act σ α}
    {state : σ} (same : whole state = act.on part replace state) :
    outcome whole state = outcome act (part state) :=
  (congrArg outcomeOf same).trans (outcome_on part replace act state)

theorem after_ensuring (act : Act σ α) (change : σ → σ) (state : σ) :
    after (act.ensuring change) state = change (after act state) := by
  cases ran : act state with
  | ok value next => simp only [after, ensuring, ran, stateOf]
  | error fault next => simp only [after, ensuring, ran, stateOf]

end Act

theorem Except.bind_eq_ok {ε α β : Type} (outcome : Except ε α) (next : α → Except ε β)
    (value : β) :
    (outcome >>= next) = .ok value ↔ ∃ middle, outcome = .ok middle ∧ next middle = .ok value := by
  cases outcome with
  | ok held =>
      change next held = .ok value ↔ _
      simp
  | error fault =>
      change Except.error fault = .ok value ↔ _
      simp

theorem Except.bind_eq_error {α β : Type} (outcome : Except Fault α) (next : α → Except Fault β)
    (fault : Fault) :
    (outcome >>= next) = .error fault ↔
      outcome = .error fault ∨ ∃ middle, outcome = .ok middle ∧ next middle = .error fault := by
  cases outcome with
  | ok held =>
      change next held = .error fault ↔ _
      simp
  | error cause =>
      change Except.error cause = .error fault ↔ _
      simp

theorem Except.unless_eq_ok {α : Type} {condition : Prop} [Decidable condition] {fault : Fault}
    {next : PUnit → Except Fault α} {value : α} :
    (if condition then throw fault >>= next else next .unit) = .ok value ↔
      ¬condition ∧ next .unit = .ok value := by
  split
  next holds =>
    simp only [holds, not_true_eq_false, false_and, iff_false]
    exact nofun
  next holds => simp only [holds, not_false_eq_true, true_and]

/-- An outcome that is no failure but with faults of some sort. -/
def FailsOnly {α : Type} (allowed : Fault → Prop) (outcome : Except Fault α) : Prop :=
  ∀ fault, outcome = .error fault → allowed fault

section

variable {α β : Type} {allowed : Fault → Prop}

theorem failsOnly_ok (value : α) : FailsOnly allowed (.ok value : Except Fault α) := nofun

theorem failsOnly_error {fault : Fault} (allows : allowed fault) :
    FailsOnly allowed (.error fault : Except Fault α) := by
  rintro _ ⟨⟩
  exact allows

theorem FailsOnly.mono {more : Fault → Prop} {outcome : Except Fault α}
    (fails : FailsOnly allowed outcome) (weaker : ∀ fault, allowed fault → more fault) :
    FailsOnly more outcome := fun fault failed => weaker fault (fails fault failed)

/-- A check before what follows. -/
theorem failsOnly_unless {condition : Prop} [Decidable condition] {fault : Fault}
    {next : PUnit → Except Fault β} (allows : allowed fault)
    (rest : FailsOnly allowed (next .unit)) :
    FailsOnly allowed (if condition then throw fault >>= next else next .unit) := by
  split
  · exact failsOnly_error allows
  · exact rest

theorem FailsOnly.bind {outcome : Except Fault α} {next : α → Except Fault β}
    (first : FailsOnly allowed outcome)
    (others : ∀ value, outcome = .ok value → FailsOnly allowed (next value)) :
    FailsOnly allowed (outcome >>= next) := by
  intro fault failed
  rcases (Except.bind_eq_error _ _ _).mp failed with failed | ⟨value, made, failed⟩
  · exact first fault failed
  · exact others value made fault failed

/-- The same of an action. -/
def Act.FailsOnly {σ α : Type} (allowed : Fault → Prop) (act : Act σ α) : Prop :=
  ∀ state fault final, act state = .error fault final → allowed fault

theorem Act.failsOnly_pure {σ : Type} (value : α) :
    Act.FailsOnly allowed (pure value : Act σ α) := nofun

theorem Act.failsOnly_modify {σ : Type} (change : σ → σ) :
    Act.FailsOnly allowed (modify change : Act σ Unit) := nofun

theorem Act.FailsOnly.bind {σ : Type} {act : Act σ α} {next : α → Act σ β}
    (first : Act.FailsOnly allowed act) (others : ∀ value, Act.FailsOnly allowed (next value)) :
    Act.FailsOnly allowed (act >>= next) := by
  intro state fault final failed
  rcases (Act.bind_eq_error _ _ _ _ _).mp failed with failed | ⟨value, between, _, failed⟩
  · exact first state fault final failed
  · exact others value between fault final failed

/-- Something that is done first, if at all. -/
theorem Act.failsOnly_when {σ : Type} {condition : Bool} {first : Act σ Unit} {rest : Act σ α}
    (fails : first.FailsOnly allowed) (others : rest.FailsOnly allowed) :
    Act.FailsOnly allowed (if condition then first >>= fun _ => rest else rest) := by
  cases condition with
  | true => exact fails.bind fun _ => others
  | false => exact others

theorem FailsOnly.act_bind {σ : Type} {outcome : Except Fault α} {next : α → Act σ β}
    (first : FailsOnly allowed outcome)
    (others : ∀ value, outcome = .ok value → Act.FailsOnly allowed (next value)) :
    Act.FailsOnly allowed (Act.ofExcept outcome >>= next) := by
  intro state fault final failed
  cases made : outcome with
  | ok value =>
      rw [made] at failed
      exact others value made state fault final failed
  | error cause =>
      rw [made] at failed
      cases failed
      exact first _ made

end

theorem set_of_getElem? {α : Type} {items : List α} {index : Nat} {item : α}
    (there : items[index]? = some item) : items.set index item = items := by
  obtain ⟨inside, same⟩ := List.getElem?_eq_some_iff.mp there
  rw [← same, List.set_getElem_self]

/-! Results for each item of a list. -/

theorem exists_mem_of_forall₂ {α β : Type} {related : α → β → Prop} {items : List α}
    {results : List β} (all : List.Forall₂ related items results) {result : β}
    (member : result ∈ results) : ∃ item ∈ items, related item result := by
  induction all with
  | nil => cases member
  | cons first _ ih =>
      rcases List.mem_cons.mp member with rfl | later
      · exact ⟨_, List.mem_cons_self, first⟩
      · obtain ⟨item, there, found⟩ := ih later
        exact ⟨item, List.mem_cons_of_mem _ there, found⟩

/-- Going through a list fails with the fault of the first item that has one. -/
theorem mapM_eq_error_iff {α β : Type} (act : α → Except Fault β) (items : List α)
    (fault : Fault) :
    items.mapM act = .error fault ↔
      ∃ before item after, items = before ++ item :: after ∧
        (∀ earlier ∈ before, ∃ result, act earlier = .ok result) ∧ act item = .error fault := by
  induction items with
  | nil =>
      rw [List.mapM_nil]
      constructor
      · rintro ⟨⟩
      · rintro ⟨before, item, after, split, _⟩
        exact absurd split.symm (by simp)
  | cons first items ih =>
      rw [List.mapM_cons, Except.bind_eq_error]
      constructor
      · rintro (failed | ⟨result, made, failed⟩)
        · exact ⟨[], first, items, rfl, nofun, failed⟩
        · rcases (Except.bind_eq_error _ _ _).mp failed with failed | ⟨_, _, finished⟩
          · obtain ⟨before, item, after, rfl, passed, failed⟩ := ih.mp failed
            refine ⟨first :: before, item, after, rfl, ?_, failed⟩
            exact List.forall_mem_cons.mpr ⟨⟨result, made⟩, passed⟩
          · cases finished
      · rintro ⟨before, item, after, split, passed, failed⟩
        cases before with
        | nil =>
            cases split
            exact .inl failed
        | cons earlier before =>
            cases split
            obtain ⟨⟨result, made⟩, passed⟩ := List.forall_mem_cons.mp passed
            have rest := ih.mpr ⟨before, item, after, rfl, passed, failed⟩
            exact .inr ⟨result, made, (Except.bind_eq_error _ _ _).mpr (.inl rest)⟩

theorem mapM_eq_ok_iff {α β : Type} (act : α → Except Fault β) (items : List α)
    (results : List β) :
    items.mapM act = .ok results ↔
      List.Forall₂ (fun item result => act item = .ok result) items results := by
  induction items generalizing results with
  | nil =>
      rw [List.mapM_nil, List.forall₂_nil_left_iff]
      constructor
      · rintro ⟨⟩
        rfl
      · rintro rfl
        rfl
  | cons item items ih =>
      rw [List.mapM_cons, Except.bind_eq_ok, List.forall₂_cons_left_iff]
      constructor
      · rintro ⟨first, made, rest⟩
        obtain ⟨others, madeOthers, same⟩ := (Except.bind_eq_ok _ _ _).mp rest
        cases same
        exact ⟨first, others, made, (ih others).mp madeOthers, rfl⟩
      · rintro ⟨first, others, made, madeOthers, rfl⟩
        refine ⟨first, made, ?_⟩
        rw [Except.bind_eq_ok]
        exact ⟨others, (ih others).mpr madeOthers, rfl⟩

theorem mapM_ok_of_mem {α β : Type} {act : α → Except Fault β} {items : List α}
    {results : List β} (made : items.mapM act = .ok results) :
    ∀ item ∈ items, ∃ result, act item = .ok result := by
  rw [mapM_eq_ok_iff] at made
  induction made with
  | nil =>
      intro item member
      cases member
  | cons first _ ih =>
      intro item member
      rcases List.mem_cons.mp member with rfl | later
      · exact ⟨_, first⟩
      · exact ih item later

theorem mapM_bind_eq_ok {α β γ : Type} (first : α → Except Fault β) (second : β → Except Fault γ)
    (items : List α) (results : List γ) :
    items.mapM (fun item => first item >>= second) = .ok results ↔
      ∃ middles, items.mapM first = .ok middles ∧ middles.mapM second = .ok results := by
  simp only [mapM_eq_ok_iff, Except.bind_eq_ok]
  constructor
  · intro found
    induction found with
    | nil => exact ⟨[], .nil, .nil⟩
    | cons made _ ih =>
        obtain ⟨middle, madeFirst, madeSecond⟩ := made
        obtain ⟨middles, others, rest⟩ := ih
        exact ⟨middle :: middles, .cons madeFirst others, .cons madeSecond rest⟩
  · rintro ⟨middles, left, right⟩
    induction left generalizing results with
    | nil =>
        cases right
        exact .nil
    | cons made _ ih =>
        cases right with
        | cons finished rest => exact .cons ⟨_, made, finished⟩ (ih _ rest)

end ScriptCatalog
