import ScriptCatalog.Proofs.Argument.Carried
import ScriptCatalog.Proofs.Runner.Hosted
import ScriptCatalog.Proofs.Script.Registered

/-! Declared properties of arguments. A script has them from what it was built of, and no run, no
value passed in and no reset changes them. -/

namespace ScriptCatalog

section

variable [Platform]

namespace Script

variable {known : EnumTypes → Prop} {assignable : Argument → Payload → Prop}
  {carries : Payload → Payload → Prop} {script after : Script}

/-- An argument and what it is later: the same but for a value that carries what the default has. -/
def StillWithin (known : EnumTypes → Prop) (carries : Payload → Payload → Prop)
    (argument later : Argument) : Prop :=
  later.outline = argument.outline ∧ later.default = argument.default ∧ later.Within known carries

theorem stillWithin_of_changed (inherits : Payload.Inherits known carries)
    (built : Built known script) (changed : Changed (Argument.Carries known carries) script after) :
    ∃ profile arguments later, script = ofArguments profile arguments ∧
      after = ofArguments profile later ∧
      List.Forall₂ (StillWithin known carries) arguments later := by
  obtain ⟨profile, arguments, rfl, made⟩ := built.ofMade
  obtain ⟨later, rfl, each⟩ := changed.ofArguments
  refine ⟨profile, arguments, later, rfl, rfl, ?_⟩
  rw [List.forall₂_iff_get] at each ⊢
  refine ⟨each.1, fun index inside insideLater => ?_⟩
  have follow := each.2 index inside insideLater
  obtain ⟨types, kind, label, default, knows, given⟩ :=
    made _ (List.get_mem arguments ⟨index, inside⟩)
  exact ⟨follow.outline, follow.default, follow.within (Argument.within_make inherits knows given)⟩

theorem Reaches.stillWithin (inherits : Payload.Inherits known carries)
    (assigned : ∀ {argument held}, assignable argument held → argument.Within known carries →
      held.kind = argument.kind.payloadKind → carries argument.default held)
    (built : Built known script) (reached : Reaches known assignable script after) :
    ∃ profile arguments later, script = ofArguments profile arguments ∧
      after = ofArguments profile later ∧
      List.Forall₂ (StillWithin known carries) arguments later :=
  stillWithin_of_changed inherits built <|
    reached.changed (Argument.admits_carries inherits) fun allowed given =>
      Argument.carries_assign (fun within form => assigned allowed within form) given

end Script

/-- An argument as it was declared, and what it is later: of the same type, label and default, with
a value that has the form of the type and the declared properties of the default. -/
structure Argument.KeepsDeclared (declared later : Argument) : Prop where
  kind : later.kind = declared.kind
  label : later.label = declared.label
  default : later.default = declared.default
  form : later.value.kind = declared.kind.payloadKind
  adjustment : declared.kind = .adjustment → ∃ initial held lower upper step page digits slider,
    declared.default = .adjustment initial lower upper step page digits slider ∧
      later.value = .adjustment held lower upper step page digits slider
  option : declared.kind = .option → ∃ labels initial selected,
    declared.default = .option labels initial ∧ later.value = .option labels selected ∧
      selected < labels.length
  enum : declared.kind = .enum → ∃ typeName initial selected,
    declared.default = .enum typeName initial ∧ later.value = .enum typeName selected

namespace Script

variable {known : EnumTypes → Prop} {script after : Script}

theorem keepsDeclared_of_stillWithin {declared later : Argument}
    (still : StillWithin known (fun payload value => value.fixed = payload.fixed ∧
      value.Inside known) declared later) :
    declared.KeepsDeclared later := by
  obtain ⟨outline, default, within⟩ := still
  have kinds : later.kind = declared.kind := congrArg Prod.fst outline
  obtain ⟨fixed, inside⟩ := within.carried
  have form := within.defaultForm
  rw [default] at fixed form
  rw [kinds] at form
  refine ⟨kinds, congrArg Prod.snd outline, default, kinds ▸ within.valueForm, ?_, ?_, ?_⟩
  · intro adjusts
    rw [adjusts] at form
    exact Payload.adjustment_of_fixed_eq fixed form
  · intro chooses
    rw [chooses] at form
    obtain ⟨labels, initial, selected, held, now⟩ := Payload.option_of_fixed_eq fixed form
    rw [now] at inside
    exact ⟨labels, initial, selected, held, now, inside⟩
  · intro chooses
    rw [chooses] at form
    exact Payload.enum_of_fixed_eq fixed form

/-- Whatever a host does to a script, be it that it fails, every argument keeps what was declared of
it. -/
theorem declared_properties_kept (built : Built (fun _ => True) script)
    (reached : Reaches (fun _ => True) (fun _ _ => False) script after) :
    ∃ profile declared later, script = ofArguments profile declared ∧
      after = ofArguments profile later ∧
      List.Forall₂ Argument.KeepsDeclared declared later := by
  obtain ⟨profile, declared, later, same, now, each⟩ :=
    reached.stillWithin (Payload.inherits_fixed.and Payload.inherits_inside)
      (fun never => never.elim) built
  exact ⟨profile, declared, later, same, now, each.imp fun _ _ => keepsDeclared_of_stillWithin⟩

end Script

end

namespace Script

def optionArguments (selected : Nat) : List Argument :=
  [{ kind := .option, label := .text "O", default := .option [.text "a", .text "b"] 0
     value := .option [.text "a", .text "b"] selected }]

def optionDesk : RunDesk :=
  { RunDesk.sample with script := .ofArguments (.plain "s") (optionArguments 0) }

theorem declared_properties_kept_option :
    ∃ config, Config.shipped = .ok config ∧
      (Act.after (RunDesk.run (fun _ => .ok "done") none .standard config
        (.list [.int 1, .int 1])) optionDesk).script =
          ofArguments (.plain "s") (optionArguments 1) ∧
      List.Forall₂ Argument.KeepsDeclared (optionArguments 0) (optionArguments 1) := by
  obtain ⟨config, opened, ran⟩ : ∃ config, Config.shipped = .ok config ∧
      (Act.after (RunDesk.run (fun _ => .ok "done") none .standard config
        (.list [.int 1, .int 1])) optionDesk).script =
          ofArguments (.plain "s") (optionArguments 1) := ⟨_, rfl, rfl⟩
  have built : Built (fun _ => True) optionDesk.script := by
    refine .created fun argument member => ?_
    cases List.mem_singleton.mp member
    exact ⟨.standard, .option, .text "O", .payload (.option [.text "a", .text "b"] 0), trivial, rfl⟩
  obtain ⟨profile, declared, later, same, now, each⟩ := declared_properties_kept built
    (.run (fun _ => .ok "done") none .standard config (.list [.int 1, .int 1]) optionDesk trivial
      fun _ none => nomatch none)
  obtain ⟨_, rfl⟩ := ofArguments_inj same
  obtain ⟨_, rfl⟩ := ofArguments_inj (ran.symm.trans now)
  exact ⟨config, opened, ran, each⟩

end Script

end ScriptCatalog
