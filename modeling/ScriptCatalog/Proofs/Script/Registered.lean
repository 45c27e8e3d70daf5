import ScriptCatalog.Proofs.Act
import ScriptCatalog.Script.File

/-! How scripts come about. Whether a script is registered, loaded from a file or created, its
arguments are made from defaults one by one, with the enumerations of that time. -/

namespace ScriptCatalog

variable [Platform]

def Argument.Made (known : EnumTypes → Prop) (argument : Argument) : Prop :=
  ∃ types kind label default, known types ∧ make types kind label default = .ok argument

theorem ArgKind.ofDatum_token (kind : ArgKind) : ofDatum (.text kind.token) = .ok kind := by
  have found : all.find? (fun other => kind.token == other.token) = some kind := by
    cases kind <;> decide +kernel
  simp only [ofDatum, Datum.equalsText, found]

namespace Registration

variable {types : EnumTypes} {journal after : Journal}

theorem argument_of_token (script : String) (position : Nat) (kind : ArgKind) (label : String)
    (default : Datum) :
    argument types script position (.list [.text kind.token, .text label, default]) =
      declaredArgument types script position kind label default := by
  have items : (Datum.list [.text kind.token, .text label, default]).items? =
      some [.text kind.token, .text label, default] := rfl
  simp only [argument, items, ArgKind.ofDatum_token]

theorem made_of_argument {script : String} {position : Nat} {declaration : Datum}
    {made : Argument} (declared : argument types script position declaration = .ok made) :
    made.Made (· = types) := by
  rcases items : declaration.items? with _ | _ | ⟨token, _ | ⟨label, _ | ⟨default, _ | ⟨_, _⟩⟩⟩⟩
  case some.cons.cons.cons.nil =>
    simp only [argument, items] at declared
    cases kinds : ArgKind.ofDatum token with
    | error fault =>
        simp only [kinds] at declared
        cases declared
    | ok kind =>
        simp only [kinds] at declared
        cases label with
        | text label =>
            simp only [declaredArgument] at declared
            split at declared
            next held given =>
              cases declared
              obtain ⟨payload, _, given⟩ := (Except.bind_eq_ok _ _ _).mp given
              exact ⟨types, kind, _, _, rfl, given⟩
            next =>
              split at declared <;> cases declared
        | _ => cases declared
  all_goals
    simp only [argument, items] at declared
    cases declared

theorem made_of_arguments {script : String} {position : Nat} {declarations : List Datum}
    {made : List Argument} (declared : arguments types script position declarations = .ok made) :
    ∀ argument ∈ made, argument.Made (· = types) := by
  induction declarations generalizing position made with
  | nil =>
      cases declared
      exact fun _ member => absurd member List.not_mem_nil
  | cons declaration rest ih =>
      obtain ⟨first, given, declared⟩ := (Except.bind_eq_ok _ _ _).mp declared
      obtain ⟨others, declaredRest, same⟩ := (Except.bind_eq_ok _ _ _).mp declared
      cases same
      intro argument member
      rcases List.mem_cons.mp member with rfl | later
      · exact made_of_argument given
      · exact ih declaredRest argument later

theorem script_eq_ok {registration : Registration} {registered : Script}
    (given : registration.script types = .ok registered) :
    ∃ profile arguments, registered = .ofArguments profile arguments ∧
      ∀ argument ∈ arguments, argument.Made (· = types) := by
  obtain ⟨name, _, given⟩ := (Except.bind_eq_ok _ _ _).mp given
  obtain ⟨profile, _, given⟩ := (Except.bind_eq_ok _ _ _).mp given
  obtain ⟨declarations, _, given⟩ := (Except.bind_eq_ok _ _ _).mp given
  obtain ⟨arguments, declared, same⟩ := (Except.bind_eq_ok _ _ _).mp given
  cases same
  exact ⟨profile, arguments, rfl, made_of_arguments declared⟩

theorem script_of_ok {registration : Registration} {name : String} {profile : Profile}
    {declarations : List Datum} {made : List Argument}
    (named : scriptName registration.name = .ok name)
    (described : registration.profile name = .ok profile)
    (counted : registration.listed = .ok declarations)
    (declared : arguments types name 1 declarations = .ok made) :
    registration.script types = .ok (.ofArguments profile made) := by
  refine (Except.bind_eq_ok _ _ _).mpr ⟨name, named, ?_⟩
  refine (Except.bind_eq_ok _ _ _).mpr ⟨profile, described, ?_⟩
  refine (Except.bind_eq_ok _ _ _).mpr ⟨declarations, counted, ?_⟩
  exact (Except.bind_eq_ok _ _ _).mpr ⟨made, declared, rfl⟩

/-! Registrations that are logged, and files of them. -/

theorem register_of_ok {registration : Registration} {script : Script}
    (given : registration.script types = .ok script) (journal : Journal) :
    ∃ logged, registration.register types journal = .ok script logged := by
  obtain ⟨name, named, _⟩ := (Except.bind_eq_ok _ _ _).mp given
  rw [register, named, given]
  exact ⟨_, rfl⟩

theorem register_eq_ok {registration : Registration} {script : Script}
    (ran : registration.register types journal = .ok script after) :
    registration.script types = .ok script := by
  obtain ⟨name, _, ran⟩ := (Act.bind_ofExcept_eq_ok _ _ _ _ _).mp ran
  obtain ⟨registered, given, ran⟩ := (Act.bind_ofExcept_eq_ok _ _ _ _ _).mp ran
  obtain ⟨_, _, _, same⟩ := (Act.bind_eq_ok _ _ _ _ _).mp ran
  cases same
  exact given

theorem registerEntries_eq_ok {path : String} {index : Nat} {entries : List Json}
    {scripts : List Script}
    (ran : registerEntries types path index entries journal = .ok scripts after) :
    ∀ script ∈ scripts, ∃ registration : Registration, registration.script types = .ok script := by
  induction entries generalizing index journal scripts with
  | nil =>
      cases ran
      exact fun _ member => absurd member List.not_mem_nil
  | cons entry entries ih =>
      cases entry with
      | object fields =>
          obtain ⟨registration, _, ran⟩ := (Act.bind_ofExcept_eq_ok _ _ _ _ _).mp ran
          obtain ⟨first, between, registered, ran⟩ := (Act.bind_eq_ok _ _ _ _ _).mp ran
          obtain ⟨others, _, rest, same⟩ := (Act.bind_eq_ok _ _ _ _ _).mp ran
          cases same
          intro script member
          rcases List.mem_cons.mp member with rfl | later
          · exact ⟨registration, register_eq_ok registered⟩
          · exact ih rest script later
      | _ => cases ran

theorem loadFile_eq_ok {files : Files} {path : String} {scripts : List Script}
    (ran : loadFile types files path journal = .ok scripts after) :
    ∀ script ∈ scripts, ∃ registration : Registration, registration.script types = .ok script := by
  obtain ⟨entries, _, ran⟩ := (Act.bind_ofExcept_eq_ok _ _ _ _ _).mp ran
  obtain ⟨registered, between, loaded, ran⟩ := (Act.bind_eq_ok _ _ _ _ _).mp ran
  obtain ⟨_, _, _, same⟩ := (Act.bind_eq_ok _ _ _ _ _).mp ran
  cases same
  exact registerEntries_eq_ok loaded

end Registration

namespace Script

/-- A script as it is built: registered, or created of arguments that were made for it. -/
inductive Built (known : EnumTypes → Prop) : Script → Prop
  | registered {types : EnumTypes} {registration : Registration} {script : Script} :
      known types → registration.script types = .ok script → Built known script
  | created {profile : Profile} {arguments : List Argument} :
      (∀ argument ∈ arguments, argument.Made known) → Built known (ofArguments profile arguments)

variable {known : EnumTypes → Prop} {script : Script}

theorem Built.ofMade (built : Built known script) :
    ∃ profile arguments, script = ofArguments profile arguments ∧
      ∀ argument ∈ arguments, argument.Made known := by
  cases built with
  | registered knows given =>
      obtain ⟨profile, arguments, same, made⟩ := Registration.script_eq_ok given
      refine ⟨profile, arguments, same, fun argument member => ?_⟩
      obtain ⟨types, kind, label, default, rfl, argumentGiven⟩ := made argument member
      exact ⟨types, kind, label, default, knows, argumentGiven⟩
  | @created profile arguments made => exact ⟨profile, arguments, rfl, made⟩

end Script

end ScriptCatalog
