import ScriptCatalog.Proofs.Command.Rendering
import ScriptCatalog.Proofs.Runner.Declared

/-! Commands from the values of an invocation do not depend on the values that a script holds. All
that a value says about what is passed in its place are the choices it selects from, and those stay
what they were declared to be. -/

namespace ScriptCatalog

section

variable [Platform]

namespace Act

variable {σ α β : Type} {one other : σ}

/-- Two actions that come to the same in two states and leave each as it is. -/
def Agree (one other : σ) (left right : Act σ α) : Prop :=
  ∃ outcome, left one = ofExcept outcome one ∧ right other = ofExcept outcome other

theorem agree_ofExcept (outcome : Except Fault α) :
    Agree one other (ofExcept outcome) (ofExcept outcome) := ⟨outcome, rfl, rfl⟩

theorem agree_throw_bind (fault : Fault) (leftNext rightNext : α → Act σ β) :
    Agree one other ((throw fault : Act σ α) >>= leftNext)
      ((throw fault : Act σ α) >>= rightNext) :=
  ⟨.error fault, rfl, rfl⟩

theorem agree_require (condition : Bool) (fault : Fault) :
    Agree one other (require condition fault) (require condition fault) := by
  cases condition with
  | false => exact ⟨.error fault, rfl, rfl⟩
  | true => exact ⟨.ok (), rfl, rfl⟩

theorem Agree.bind {left right : Act σ α} {leftNext rightNext : α → Act σ β}
    (first : Agree one other left right)
    (next : ∀ value, Agree one other (leftNext value) (rightNext value)) :
    Agree one other (left >>= leftNext) (right >>= rightNext) := by
  obtain ⟨outcome, ran, ranOther⟩ := first
  cases outcome with
  | ok value =>
      obtain ⟨outcome, ranNext, ranNextOther⟩ := next value
      refine ⟨outcome, ?_, ?_⟩
      · exact (bind_of_ok _ ran).trans ranNext
      · exact (bind_of_ok _ ranOther).trans ranNextOther
  | error fault => exact ⟨.error fault, bind_of_error _ ran, bind_of_error _ ranOther⟩

/-- What reads two states and finds something else in each need not agree for the rest to agree. -/
theorem agree_bind_of_ok {left right : Act σ α} {leftNext rightNext : α → Act σ β}
    {value otherValue : α} (ran : left one = .ok value one)
    (ranOther : right other = .ok otherValue other)
    (next : Agree one other (leftNext value) (rightNext otherValue)) :
    Agree one other (left >>= leftNext) (right >>= rightNext) := by
  obtain ⟨outcome, ranNext, ranNextOther⟩ := next
  refine ⟨outcome, ?_, ?_⟩
  · exact (bind_of_ok _ ran).trans ranNext
  · exact (bind_of_ok _ ranOther).trans ranNextOther

end Act

theorem Payload.paramToken_congr {payload other : Payload}
    (same : other.choices = payload.choices) (types : EnumTypes) (precision : Precision)
    (param : Datum) :
    other.paramToken types precision param = payload.paramToken types precision param := by
  cases payload with
  | adjustment =>
      cases other <;> cases same
      simp only [paramToken, updated]
      cases paramNumber param <;> rfl
  | brush =>
      cases other <;> cases same
      cases param with
      | payload held => cases held <;> rfl
      | _ => rfl
  | _ =>
      cases other <;> cases same
      rfl

def SameChoices : List Argument → List Argument → Prop :=
  List.Forall₂ fun argument other => other.value.choices = argument.value.choices

theorem passedTokens_congr {arguments others : List Argument} (same : SameChoices arguments others)
    (types : EnumTypes) (precision : Precision) (params : List Datum) :
    passedTokens types precision others params = passedTokens types precision arguments params := by
  induction same generalizing params with
  | nil => rfl
  | cons first _ ih =>
      cases params with
      | nil => rfl
      | cons param params =>
          rw [passedTokens, passedTokens, Payload.paramToken_congr first, ih]

theorem params_congr {arguments others : List Argument} (same : SameChoices arguments others)
    (invocation : Invocation) :
    Invocation.params others invocation = Invocation.params arguments invocation := by
  cases same <;> rfl

namespace Script

variable {α : Type} {one other : LiveScript}

theorem agree_told (profile : Profile) (slots others : List (Option Argument)) (held : Bool)
    (part : Profile → Datum) :
    Act.Agree (live ⟨profile, slots, held⟩) (live ⟨profile, others, held⟩) (told part)
      (told part) := by
  have profiles : Act.Agree (live ⟨profile, slots, held⟩) (live ⟨profile, others, held⟩)
      Script.profile Script.profile := ⟨.ok profile, rfl, rfl⟩
  refine profiles.bind fun profile => (Act.agree_require _ _).bind fun _ => ?_
  exact Act.agree_ofExcept (.ok (part profile))

theorem agree_exclusively {act : ScriptAct α} (free : one.held = false)
    (freeOther : other.held = false) (inside : Act.Agree (holdOf one) (holdOf other) act act) :
    Act.Agree (live one) (live other) (exclusively act) (exclusively act) := by
  obtain ⟨outcome, ran, ranOther⟩ := inside
  rw [Act.Agree, exclusively_free act one free, exclusively_free act other freeOther]
  refine ⟨outcome, ?_⟩
  cases outcome with
  | ok value =>
      rw [ensuring_of_ok act ran, ensuring_of_ok act ranOther, letGo_holdOf one free,
        letGo_holdOf other freeOther]
      exact ⟨rfl, rfl⟩
  | error fault =>
      rw [ensuring_of_error act ran, ensuring_of_error act ranOther, letGo_holdOf one free,
        letGo_holdOf other freeOther]
      exact ⟨rfl, rfl⟩

/-- Two scripts that say the same about themselves, and whose arguments select from the same, give
the same command. -/
theorem agree_passedCommand (profile : Profile) {arguments others : List Argument}
    (same : SameChoices arguments others) (types : EnumTypes) (precision : Precision)
    (invocation : Invocation) :
    Act.Agree (ofArguments profile arguments) (ofArguments profile others)
      (passedCommand types precision invocation) (passedCommand types precision invocation) := by
  refine (Act.agree_require _ _).bind fun _ => agree_exclusively rfl rfl ?_
  have listed (given : List Argument) :=
    arguments_of_slots ⟨profile, given.map some, true⟩ given rfl
  refine Act.agree_bind_of_ok (listed arguments) (listed others) ?_
  rw [same.length_eq]
  refine (Act.agree_ofExcept _).bind fun size => ?_
  have rest : Act.Agree (live ⟨profile, arguments.map some, true⟩)
      (live ⟨profile, others.map some, true⟩)
      (do
        let params ← Act.ofExcept (Invocation.params arguments invocation)
        let tokens ← Act.ofExcept (passedTokens types precision arguments params)
        Act.ofExcept (formatCommand (← name) tokens) : ScriptAct String)
      (do
        let params ← Act.ofExcept (Invocation.params others invocation)
        let tokens ← Act.ofExcept (passedTokens types precision others params)
        Act.ofExcept (formatCommand (← name) tokens) : ScriptAct String) := by
    simp only [params_congr same, passedTokens_congr same]
    refine (Act.agree_ofExcept _).bind fun params => (Act.agree_ofExcept _).bind fun tokens => ?_
    exact (agree_told profile _ _ true (·.name)).bind fun name => Act.agree_ofExcept _
  by_cases few : size < others.length + 1
  · simp only [few, if_true]
    exact (agree_told profile _ _ true (·.name)).bind fun name => Act.agree_throw_bind _ _ _
  · simp only [few, if_false]
    exact rest

end Script

/-- A payload that can stand for the value of an argument without changing what it selects from. -/
def Argument.Selects (argument : Argument) : Payload → Prop
  | .option labels _ =>
      argument.kind = .option → ∃ selected, argument.default = .option labels selected
  | .enum typeName _ =>
      argument.kind = .enum → ∃ selected, argument.default = .enum typeName selected
  | _ => True

namespace Script

variable {known : EnumTypes → Prop}

theorem choices_of_selects {argument : Argument} {held : Payload} (selects : argument.Selects held)
    (within : argument.Within known fun payload value => value.choices = payload.choices)
    (form : held.kind = argument.kind.payloadKind) : held.choices = argument.default.choices := by
  have same : argument.default.kind = held.kind := within.defaultForm.trans form.symm
  obtain ⟨kind, label, default, value⟩ := argument
  cases held with
  | option labels selected =>
      obtain ⟨initial, declared⟩ := selects (ArgKind.eq_option_of_payloadKind form.symm)
      cases declared
      rfl
  | enum typeName selected =>
      obtain ⟨initial, declared⟩ := selects (ArgKind.eq_enum_of_payloadKind form.symm)
      cases declared
      rfl
  | _ =>
      cases default <;> cases same
      rfl

theorem sameChoices_of_stillWithin {arguments values others : List Argument}
    (each : List.Forall₂ (StillWithin known fun payload value => value.choices = payload.choices)
      arguments values)
    (eachOther : List.Forall₂
      (StillWithin known fun payload value => value.choices = payload.choices) arguments others) :
    SameChoices values others := by
  induction each generalizing others with
  | nil =>
      cases eachOther
      exact .nil
  | cons first _ ih =>
      cases eachOther with
      | cons firstOther rest =>
          obtain ⟨_, default, within⟩ := first
          obtain ⟨_, defaultOther, withinOther⟩ := firstOther
          refine .cons ?_ (ih rest)
          rw [within.carried, withinOther.carried, default, defaultOther]

end Script

end

namespace Script

def optionRegistration : Registration :=
  { name := .text "s", menuLabel := .text "", blurb := .text "", author := .text ""
    copyright := .text "", date := .text "", imageTypes := .text ""
    declarations := .list
      [.list [.text ArgKind.option.token, .text "O", .list [.text "a", .text "b"]]] }

/-- A dialog in which other labels are assigned. -/
def relabelling [Platform] : ArgumentDialog := fun _ _ => do
  let _ ← assign (.int 0) (.payload (.option [.text "x", .text "y", .text "z"] 0))
  return true

end Script

end ScriptCatalog
