import ScriptCatalog.Proofs.Runner.Identified
import ScriptCatalog.Proofs.Script.Numbered

/-! Numbers in commands. Whatever a host does to a registered script, its commands show for each
adjustment, and in each brush, a number that was declared, passed in or assigned. It is a decimal
with the places asked for exactly if that number is finite. -/

namespace ScriptCatalog

namespace Script

variable [Platform]

/-- A script and what a host can make of it with allowed numbers only: by assigning and passing
values in, binding the leading values of invocations, restoring defaults and running it. What a
dialog does is itself made up of such steps. -/
inductive Supplied (allowed : Binary64 → Prop) : Script → Script → Prop
  | refl (script : Script) : Supplied allowed script script
  | trans {first second third : Script} : Supplied allowed first second →
      Supplied allowed second third → Supplied allowed first third
  | assign (script : Script) (index : Datum) {value : Datum} : value.Brings allowed →
      Supplied allowed script (Act.after (assign index value) script)
  | setFromParam (script : Script) (types : EnumTypes) (index : Datum) {param : Datum} :
      param.Brings allowed →
        Supplied allowed script (Act.after (setFromParam types index param) script)
  | bindStandard (script : Script) (invocation : Invocation) :
      Supplied allowed script (Act.after (bindStandard invocation) script)
  | reset (script : Script) (types : EnumTypes) (resetIds : Bool) :
      Supplied allowed script (Act.after (reset types resetIds) script)
  | resetArgument (script : Script) (types : EnumTypes) (index : Datum) (resetIds : Bool) :
      Supplied allowed script
        (Act.after (onArgument index (Argument.reset types resetIds)) script)
  | run (interpret : Interpreter) (dialog : Option ArgumentDialog) (types : EnumTypes)
      (config : Config) {invocation : Invocation} (desk : RunDesk) : invocation.Brings allowed →
      RunDesk.Edits (Supplied allowed) dialog types invocation desk.script →
      Supplied allowed desk.script
        (Act.after (RunDesk.run interpret dialog types config invocation) desk).script

variable {allowed : Binary64 → Prop}

open Argument in
theorem Supplied.changed {script after : Script} (supplied : Supplied allowed script after) :
    Changed (StaysNumbered allowed) script after := by
  induction supplied with
  | refl script => exact refl_of _ script
  | trans _ _ left right => exact trans_of _ left right
  | assign script index brings =>
      exact changed_replaceArgument fun _ _ _ given => staysNumbered_assign brings given
  | setFromParam script types index brings =>
      exact moves_setFromParam_of (fun _ _ => staysNumbered_setFromParam brings) index script
  | bindStandard script invocation =>
      exact moves_bindStandard (binding_numbered invocation) script
  | reset script types resetIds =>
      exact moves_reset_of (staysNumbered_reset types resetIds) script
  | resetArgument script types index resetIds =>
      exact changed_onArgument fun place _ => staysNumbered_reset types resetIds place.2
  | run interpret dialog types config desk brings _ ih =>
      -- What the dialog does is covered by the induction; storing the values passed in is not.
      refine RunDesk.changed_run_of (binding_numbered _) ?_ ih interpret config
      exact moves_storeParams_of fun position param _ _ passed given =>
        staysNumbered_setFromParam (brings position param passed) given

section

variable {places : Nat} (positive : 0 < places) {profile : Profile} {declared : List Argument}
  {script : Script} (changed :
    Changed (Argument.StaysNumbered allowed) (ofArguments profile declared) script)
  (numbered : ∀ argument ∈ declared, argument.Numbered allowed)

include changed numbered

theorem numbered_of_changed {arguments : List Argument} {now : Profile}
    (same : script = ofArguments now arguments) :
    (∀ argument ∈ arguments, argument.Numbered allowed) ∧
      arguments.map (·.kind) = declared.map (·.kind) := by
  obtain ⟨others, rfl, each⟩ := changed.ofArguments
  obtain ⟨_, rfl⟩ := ofArguments_inj same
  refine ⟨fun argument member => ?_, map_kind_of_forall₂ (fun _ _ stays => stays.kind) each⟩
  obtain ⟨earlier, before, stays⟩ := exists_mem_of_forall₂ each member
  exact stays.numbered (numbered earlier before)

include positive

theorem numberWords_of_command {text : String} {left : Script}
    (ran : command (.places places) script = .ok text left) :
    ∃ name words, text = commandText name words ∧
      NumberWords allowed places false declared words := by
  obtain ⟨_, name, arguments, words, same, _, rendered, rfl⟩ := command_eq_ok ran
  obtain ⟨still, kinds⟩ := numbered_of_changed changed numbered same
  exact ⟨name, words, rfl, numberWords_of_kinds kinds (numberWords_stored positive still rendered)⟩

theorem numberWords_of_passedCommand {types : EnumTypes} {invocation : Invocation} {text : String}
    {left : Script} (brings : invocation.Brings allowed)
    (ran : passedCommand types (.places places) invocation script = .ok text left) :
    ∃ name words, text = commandText name words ∧
      NumberWords allowed places true declared words := by
  obtain ⟨_, name, arguments, params, words, same, _, passed, rendered, rfl⟩ :=
    passedCommand_eq_ok ran
  obtain ⟨still, kinds⟩ := numbered_of_changed changed numbered same
  have each : ∀ param ∈ params, param.Brings allowed := by
    intro param member
    obtain ⟨index, inside⟩ := List.getElem?_of_mem member
    exact brings (index + 1) param (passed.itemAt_eq index param inside)
  exact ⟨name, words, rfl, numberWords_of_kinds kinds
    (numberWords_passed positive still passed.length_eq each rendered)⟩

end

/-- The numbers in the commands of a registered script. Whatever numbers are allowed, if all that
are declared, passed in or assigned are, then so are those that the commands show, be it of the
values that the script holds, of the values of an invocation or of a run. Where only finite numbers
are allowed, all of them are decimals; where others are, those are shown by name. -/
theorem commands_show_numbers (allowed : Binary64 → Prop) {types : EnumTypes}
    {registration : Registration} {script after : Script} {places : Nat} (positive : 0 < places)
    (registered : registration.script types = .ok script)
    (declared : ∀ argument, some argument ∈ script.slots → argument.default.HoldsAllowed allowed)
    (supplied : Supplied allowed script after) :
    ∃ profile arguments, script = ofArguments profile arguments ∧
      (∀ text left, command (.places places) after = .ok text left →
        ∃ name words, text = commandText name words ∧
          NumberWords allowed places false arguments words) ∧
      (∀ types invocation text left, invocation.Brings allowed →
        passedCommand types (.places places) invocation after = .ok text left →
          ∃ name words, text = commandText name words ∧
            NumberWords allowed places true arguments words) ∧
      ∀ dialog types invocation mode desk text left, desk.script = after →
        invocation.Brings allowed →
        RunDesk.Edits (Supplied allowed) dialog types invocation after →
        RunDesk.runCommand dialog types (.places places) invocation mode desk =
            .ok (some text) left →
          ∃ passed name words, text = commandText name words ∧
            NumberWords allowed places passed arguments words := by
  obtain ⟨texts, items, arguments, _, _, _, rfl, declares⟩ :=
    Registration.declared_of_script registered
  have numbered : ∀ argument ∈ arguments, argument.Numbered allowed := by
    intro argument member
    obtain ⟨_, _, declaration⟩ := exists_mem_of_forall₂ declares member
    exact Argument.numbered_of_declares declaration
      (declared argument (List.mem_map_of_mem member))
  have before := supplied.changed
  refine ⟨texts.profile, arguments, rfl, fun text left ran => ?_,
    fun types invocation text left brings ran => ?_, ?_⟩
  · exact numberWords_of_command positive before numbered ran
  · exact numberWords_of_passedCommand positive before numbered brings ran
  · rintro dialog types invocation mode desk text left rfl brings edits ran
    obtain ⟨between, later, changed, given⟩ :=
      RunDesk.runCommand_gives (Argument.binding_numbered invocation)
        (fun chosen there bound middle bindings =>
          (edits chosen there bound middle bindings).changed) ran
    have now := trans_of (Changed _) before changed
    rcases given with ran | ran
    · exact ⟨false, numberWords_of_command positive now numbered ran⟩
    · exact ⟨true, numberWords_of_passedCommand positive now numbered brings ran⟩

/-! A script for a gauge. -/

end Script

namespace Script

def gauge (default value : Binary64) : Argument :=
  { kind := .adjustment, label := .text "A"
    default := .adjustment (.real default) (.real .zero) (.real .zero) (.real .zero) (.real .zero)
      (.int 0) (.bool true)
    value := .adjustment (.real value) (.real .zero) (.real .zero) (.real .zero) (.real .zero)
      (.int 0) (.bool true) }

def gauged (default value : Binary64) : Script := ofArguments (.plain "s") [gauge default value]

def gaugeRegistration (default : Binary64) : Registration :=
  (ScriptTexts.plain "s").registration
    (.list [.list [.text ArgKind.adjustment.token, .text "A",
      .list [.real default, .real .zero, .real .zero, .real .zero, .real .zero, .int 0]]])

theorem script_gaugeRegistration (default : Binary64) :
    (gaugeRegistration default).script .standard = .ok (gauged default default) := by
  refine Registration.script_of_ok rfl rfl rfl ?_
  exact (Except.bind_eq_ok _ _ _).mpr
    ⟨_, Registration.argument_of_token "s" 1 .adjustment "A" _, rfl⟩

theorem command_gauged (places : Nat) (counted : (Precision.places places).count = .ok places)
    (default value : Binary64) :
    command (.places places) (gauged default value) =
      .ok (commandText "s" [String.ofList (value.fixed places)]) (gauged default value) := by
  refine command_ofArguments _ _ _ _ _ rfl ?_
  have shown : numberToken (.places places) (.real value) =
      .ok (String.ofList (value.fixed places)) := by
    rw [numberToken, counted]
    rfl
  have written : (gauge default value).value.token (.places places) =
      .ok (.text (String.ofList (value.fixed places))) := by
    change (do return .text (← numberToken (.places places) (.real value)) : Except Fault Datum) = _
    rw [shown]
    rfl
  rw [storedTokens, List.mapM_cons, written]
  rfl

theorem commands_show_numbers_gauge :
    (gaugeRegistration .zero).script .standard = .ok (gauged .zero .zero) ∧
      Supplied (·.isFinite = true) (gauged .zero .zero) (gauged .zero .one) ∧
      ∃ text, command (.places 2) (gauged .zero .one) = .ok text (gauged .zero .one) ∧
        ∃ name words, text = commandText name words ∧
          NumberWords (·.isFinite = true) 2 false [gauge .zero .zero] words := by
  have supplied : Supplied (·.isFinite = true) (gauged .zero .zero) (gauged .zero .one) := by
    have given : Act.after (setFromParam .standard (.int 0) (.real .one)) (gauged .zero .zero) =
        gauged .zero .one := rfl
    rw [← given]
    refine .setFromParam _ _ _ ⟨fun number passed => ?_, nofun⟩
    rw [← Except.ok.inj passed]
    decide +kernel
  have declared : ∀ argument, some argument ∈ (gauged .zero .zero).slots →
      argument.default.HoldsAllowed (·.isFinite = true) := by
    rintro argument member
    cases List.mem_singleton.mp member
    rintro _ ⟨⟩ number read
    rw [← Except.ok.inj read]
    rfl
  obtain ⟨_, arguments, same, stored, _⟩ := commands_show_numbers (·.isFinite = true)
    Nat.two_pos (script_gaugeRegistration .zero) declared supplied
  obtain ⟨_, rfl⟩ := ofArguments_inj same
  exact ⟨script_gaugeRegistration .zero, supplied, _, command_gauged 2 rfl .zero .one,
    stored _ _ (command_gauged 2 rfl .zero .one)⟩

/-- A gauge can be declared with what is not a number, and commands show its name. -/
theorem declared_gauge_not_decimal :
    (gaugeRegistration .nan).script .standard = .ok (gauged .nan .nan) ∧
      command (.places 6) (gauged .nan .nan) = .ok "(s nan)" (gauged .nan .nan) ∧
      ¬IsDecimal 6 "nan".toList := by
  refine ⟨script_gaugeRegistration .nan, command_gauged 6 rfl .nan .nan, fun decimal => ?_⟩
  exact Bool.false_ne_true ((Binary64.isDecimal_fixed_iff (by decide) .nan).mp decimal)

end Script

end ScriptCatalog
