import ScriptCatalog.Proofs.Runner.Hosted
import ScriptCatalog.Proofs.Script.Identified

/-! Identifiers in commands. Whatever a host does to a registered script, its commands show for each
image, item and display an identifier that was declared, passed in or bound. -/

namespace ScriptCatalog

section

variable [Platform]

namespace RunDesk

variable {follows : Argument → Argument → Prop} [IsPreorder Argument follows]
  {dialog : Option ArgumentDialog} {types : EnumTypes} {invocation : Invocation} {desk : RunDesk}

/-- The command of a run comes from the script as it was bound and edited before. -/
theorem runCommand_gives (binding : Argument.AdmitsBinding invocation follows)
    (edits : Edits (Script.Changed follows) dialog types invocation desk.script)
    {precision : Precision} {mode : RunMode} {text : String} {after : RunDesk}
    (ran : runCommand dialog types precision invocation mode desk = .ok (some text) after) :
    ∃ between left, Script.Changed follows desk.script between ∧
      (Script.command precision between = .ok text left ∨
        Script.passedCommand types precision invocation between = .ok text left) := by
  have binds := moves_onScript (Script.moves_bindStandard binding) desk
  cases mode with
  | interactive =>
      obtain ⟨bound, between, bindings, ran⟩ := (Act.bind_eq_ok _ _ _ _ _).mp ran
      obtain ⟨went, next, consulted, ran⟩ := (Act.bind_eq_ok _ _ _ _ _).mp ran
      cases went with
      | true =>
          obtain ⟨command, left, rendered, same⟩ := (Act.bind_eq_ok _ _ _ _ _).mp ran
          cases same
          refine ⟨next.script, _, ?_, .inl (onScript_eq_ok rendered).1⟩
          have edited := changed_consult fun chosen there =>
            edits chosen there bound _ (onScript_eq_ok bindings).1
          rw [Act.after_of_ok bindings] at binds
          rw [Act.after_of_ok consulted] at edited
          exact trans_of (Script.Changed follows) binds edited
      | false =>
          obtain ⟨_, _, _, ran⟩ := (Act.bind_eq_ok _ _ _ _ _).mp ran
          obtain ⟨_, _, _, same⟩ := (Act.bind_eq_ok _ _ _ _ _).mp ran
          cases same
  | noninteractive =>
      obtain ⟨held, _, got, ran⟩ := (Act.bind_eq_ok _ _ _ _ _).mp ran
      cases got
      obtain ⟨found, _, ran⟩ := (Act.bind_ofExcept_eq_ok _ _ _ _ _).mp ran
      by_cases whole : found = desk.script.size + 1
      · simp only [whole, ne_eq, not_true_eq_false, if_false] at ran
        obtain ⟨command, _, passed, ran⟩ := (Act.bind_eq_ok _ _ _ _ _).mp ran
        obtain ⟨_, _, _, same⟩ := (Act.bind_eq_ok _ _ _ _ _).mp ran
        cases same
        exact ⟨desk.script, _, refl_of _ desk.script, .inr (onScript_eq_ok passed).1⟩
      · simp only [whole, ne_eq, not_false_eq_true, if_true] at ran
        obtain ⟨_, _, _, ran⟩ := (Act.bind_eq_ok _ _ _ _ _).mp ran
        obtain ⟨_, _, thrown, _⟩ := (Act.bind_eq_ok _ _ _ _ _).mp ran
        cases thrown
  | withLastValues =>
      obtain ⟨bound, between, bindings, ran⟩ := (Act.bind_eq_ok _ _ _ _ _).mp ran
      obtain ⟨command, left, rendered, same⟩ := (Act.bind_eq_ok _ _ _ _ _).mp ran
      cases same
      rw [Act.after_of_ok bindings] at binds
      exact ⟨between.script, _, binds, .inl (onScript_eq_ok rendered).1⟩

end RunDesk

namespace Script

/-- A script and what a host can make of it by passing values in, binding the leading values of
invocations, restoring defaults and running it, where what is bound comes from invocations of the
given kind. What a dialog does is itself made up of such steps. -/
inductive Served (refers : Invocation → Prop) : Script → Script → Prop
  | refl (script : Script) : Served refers script script
  | trans {first second third : Script} : Served refers first second →
      Served refers second third → Served refers first third
  | setFromParam (script : Script) (types : EnumTypes) (index param : Datum) :
      Served refers script (Act.after (setFromParam types index param) script)
  | bindStandard (script : Script) (invocation : Invocation) : refers invocation →
      Served refers script (Act.after (bindStandard invocation) script)
  | reset (script : Script) (types : EnumTypes) (resetIds : Bool) :
      Served refers script (Act.after (reset types resetIds) script)
  | run (interpret : Interpreter) (dialog : Option ArgumentDialog) (types : EnumTypes)
      (config : Config) (invocation : Invocation) (desk : RunDesk) : refers invocation →
      RunDesk.Edits (Served refers) dialog types invocation desk.script →
      Served refers desk.script
        (Act.after (RunDesk.run interpret dialog types config invocation) desk).script

/-- The commands that come from a script: of the values it holds, of the values of an invocation,
and of runs. -/
inductive Renders (refers : Invocation → Prop) : Script → String → Prop
  | stored {script after : Script} {precision : Precision} {text : String} :
      command precision script = .ok text after → Renders refers script text
  | passed {script after : Script} {types : EnumTypes} {precision : Precision}
      {invocation : Invocation} {text : String} :
      passedCommand types precision invocation script = .ok text after →
        Renders refers script text
  | run {dialog : Option ArgumentDialog} {types : EnumTypes} {precision : Precision}
      {invocation : Invocation} {mode : RunMode} {desk after : RunDesk} {text : String} :
      refers invocation → RunDesk.Edits (Served refers) dialog types invocation desk.script →
      RunDesk.runCommand dialog types precision invocation mode desk = .ok (some text) after →
        Renders refers desk.script text

section

variable {refers : Invocation → Prop} {follows : Argument → Argument → Prop}
  [IsPreorder Argument follows] (updates : Argument.Updates (fun _ => True) follows)
  (binding : ∀ {invocation}, refers invocation → Argument.AdmitsBinding invocation follows)

include updates binding

theorem Served.changed {script after : Script} (served : Served refers script after) :
    Changed follows script after := by
  induction served with
  | refl script => exact refl_of (Changed follows) script
  | trans _ _ left right => exact trans_of (Changed follows) left right
  | setFromParam script types index param =>
      exact moves_setFromParam updates trivial index param script
  | bindStandard script invocation refer => exact moves_bindStandard (binding refer) script
  | reset script types resetIds => exact moves_reset updates trivial resetIds script
  | run interpret dialog types config invocation desk refer _ ih =>
      exact RunDesk.changed_run updates (binding refer) trivial ih interpret config

theorem Renders.exists_changed {script : Script} {text : String}
    (renders : Renders refers script text) :
    ∃ between left precision, Changed follows script between ∧
      (command precision between = .ok text left ∨
        ∃ types invocation, passedCommand types precision invocation between = .ok text left) := by
  cases renders with
  | stored ran => exact ⟨script, _, _, refl_of _ script, .inl ran⟩
  | passed ran => exact ⟨script, _, _, refl_of _ script, .inr ⟨_, _, ran⟩⟩
  | run refer edits ran =>
      have changes := fun chosen there bound between bindings =>
        (edits chosen there bound between bindings).changed updates binding
      obtain ⟨between, left, changed, given | given⟩ :=
        RunDesk.runCommand_gives (binding refer) changes ran
      · exact ⟨between, left, _, changed, .inl given⟩
      · exact ⟨between, left, _, changed, .inr ⟨_, _, given⟩⟩

end

theorem idWords_of_changed {truths : Bool} {profile : Profile} {declared : List Argument}
    (identified : ∀ argument ∈ declared, argument.Identified truths) {between left : Script}
    (changed : Changed (Argument.StaysIdentified truths) (ofArguments profile declared) between)
    {precision : Precision} {text : String}
    (given : command precision between = .ok text left ∨
      ∃ types invocation, passedCommand types precision invocation between = .ok text left) :
    ∃ name words, text = commandText name words ∧ IdWords truths declared words := by
  obtain ⟨now, rfl, each⟩ := changed.ofArguments
  have still : ∀ argument ∈ now, argument.Identified truths := by
    intro argument member
    obtain ⟨earlier, before, stays⟩ := exists_mem_of_forall₂ each member
    exact stays.identified (identified earlier before)
  have shown {words : List String} (written : IdWords truths now words) :
      IdWords truths declared words := by
    rw [IdWords, ← map_kind_of_forall₂ (fun _ _ stays => stays.kind) each]
    exact written
  rcases given with ran | ⟨types, invocation, ran⟩
  · obtain ⟨_, name, arguments, words, same, _, rendered, rfl⟩ := command_eq_ok ran
    obtain ⟨_, rfl⟩ := ofArguments_inj same
    exact ⟨name, words, rfl, shown (idWords_stored still rendered)⟩
  · obtain ⟨_, name, arguments, params, words, same, _, passed, rendered, rfl⟩ :=
      passedCommand_eq_ok ran
    obtain ⟨_, rfl⟩ := ofArguments_inj same
    exact ⟨name, words, rfl, shown (idWords_passed still passed.length_eq rendered)⟩

/-- A reference that binding takes for an argument can be passed in for it with the same effect if
it has a number, and only then. Whatever a host does to a registered script, its commands show a
numeral for each image, item and display, unless references have truth values for numbers. -/
theorem references_agree_on_numbers (types : EnumTypes) (truths : Bool) :
    (∀ (profile : Profile) (invocation : Invocation) (items : List Datum)
      (arguments : List Argument), profile.name.isNull = false →
      invocation.itemsByPosition 1 = .ok items →
      (∀ argument ∈ arguments, argument.value.kind = argument.kind.payloadKind) →
      ∃ count changed, bindStandard invocation (ofArguments profile arguments) =
          .ok count (ofArguments profile changed) ∧
        ∀ index argument, index < count → arguments[index]? = some argument →
          ∃ passed id, argument.kind.isItem = true ∧
            items[index + 1]? = some (.object passed id) ∧
            changed[index]? = some { argument with value := .itemId id } ∧
            PassesReference types profile arguments index argument passed id ∧
            PassesReference types profile changed index argument passed id) ∧
    ∀ (registration : Registration) (script after : Script) (text : String),
      registration.script types = .ok script →
      Served (Invocation.Refers truths) script after →
      Renders (Invocation.Refers truths) after text →
      ∃ profile arguments name words, script = ofArguments profile arguments ∧
        text = commandText name words ∧ IdWords truths arguments words := by
  constructor
  · intro profile invocation items arguments named listed typed
    exact reference_bound_and_passed types named listed typed
  · intro registration script after text registered served renders
    obtain ⟨texts, items, arguments, _, _, _, rfl, declares⟩ :=
      Registration.declared_of_script registered
    have identified : ∀ argument ∈ arguments, argument.Identified truths := by
      intro argument member
      obtain ⟨_, _, declared⟩ := exists_mem_of_forall₂ declares member
      exact identified_of_declares declared
    have before := served.changed Argument.updates_identified Argument.binding_identified
    obtain ⟨between, left, precision, changed, given⟩ :=
      renders.exists_changed Argument.updates_identified Argument.binding_identified
    obtain ⟨name, words, same, shown⟩ :=
      idWords_of_changed identified (trans_of (Changed _) before changed) given
    exact ⟨texts.profile, arguments, name, words, rfl, same, shown⟩

end Script

end

namespace Script

/-! A script for an image. -/

def imageArgument (id : Datum) : Argument :=
  { kind := .image, label := .text "I", default := .itemId (.int 0), value := .itemId id }

def imageScript (id : Datum) : Script := ofArguments (.plain "s") [imageArgument id]

def imageRegistration : Registration :=
  (ScriptTexts.plain "s").registration
    (.list [.list [.text ArgKind.image.token, .text "I", .int 0]])

theorem script_imageRegistration :
    imageRegistration.script .standard = .ok (imageScript (.int 0)) := by
  refine Registration.script_of_ok rfl rfl rfl ?_
  exact (Except.bind_eq_ok _ _ _).mpr
    ⟨_, Registration.argument_of_token "s" 1 .image "I" (.int 0), rfl⟩

def imagePassed (id : Datum) : Invocation := .list [.int 0, .object .image id]

theorem bindStandard_imagePassed (id : Datum) :
    bindStandard (imagePassed id) (imageScript (.int 0)) = .ok 1 (imageScript id) := rfl

theorem command_imageScript_seven :
    command .standard (imageScript (.int 7)) = .ok "(s 7)" (imageScript (.int 7)) := by
  have short : isShort 7 = true := isShort_of_natAbs_lt (by decide)
  have written : (Datum.int 7).written = .ok "7" := by
    rw [Datum.written, Datum.unshown?_int, short]
    rfl
  have token : (Payload.itemId (.int 7)).token .standard = .ok (.text "7") := by
    change (do return .text (← (Datum.int 7).written) : Except Fault Datum) = _
    rw [written]
    rfl
  refine command_ofArguments .standard (.plain "s") _ "s" ["7"] rfl ?_
  change List.mapM (fun argument : Argument => argument.value.token .standard)
    [imageArgument (.int 7)] = _
  rw [List.mapM_cons]
  change (Payload.itemId (.int 7)).token .standard >>= _ = _
  rw [token]
  rfl

theorem references_agree_on_numbers_image :
    imageRegistration.script .standard = .ok (imageScript (.int 0)) ∧
      Served (Invocation.Refers false) (imageScript (.int 0)) (imageScript (.int 7)) ∧
      Renders (Invocation.Refers false) (imageScript (.int 7)) "(s 7)" ∧
      (∃ name words, "(s 7)" = commandText name words ∧
        IdWords false [imageArgument (.int 0)] words) ∧
      PassesReference .standard (.plain "s") [imageArgument (.int 0)] 0 (imageArgument (.int 0))
        .image (.int 7) := by
  have refers : (imagePassed (.int 7)).Refers false := by
    intro position passed id given
    obtain ⟨items, listed, there⟩ := (itemAt_eq_ok_iff _ _ _).mp given
    cases listed
    rcases position with _ | _ | position <;> cases there
    trivial
  have served : Served (Invocation.Refers false) (imageScript (.int 0)) (imageScript (.int 7)) := by
    rw [← Act.after_of_ok (bindStandard_imagePassed (.int 7))]
    exact .bindStandard _ _ refers
  have renders : Renders (Invocation.Refers false) (imageScript (.int 7)) "(s 7)" :=
    .stored command_imageScript_seven
  obtain ⟨bound, shown⟩ := references_agree_on_numbers .standard false
  obtain ⟨_, _, name, words, same, text, each⟩ :=
    shown imageRegistration _ _ _ script_imageRegistration served renders
  obtain ⟨_, rfl⟩ := ofArguments_inj same
  obtain ⟨count, changed, ran, passes⟩ := bound (.plain "s") (imagePassed (.int 7)) _
    [imageArgument (.int 0)] rfl rfl (List.forall_mem_singleton.mpr rfl)
  obtain ⟨rfl, _⟩ := EStateM.Result.ok.inj (ran.symm.trans (bindStandard_imagePassed (.int 7)))
  obtain ⟨passed, id, _, given, _, stored, _⟩ := passes 0 _ Nat.zero_lt_one rfl
  cases given
  exact ⟨script_imageRegistration, served, renders, ⟨name, words, text, each⟩, stored⟩

/-- A reference without a number is bound and cannot be passed in; one that has a truth value for a
number is shown with that. -/
theorem references_without_numbers_bound :
    imageRegistration.script .standard = .ok (imageScript (.int 0)) ∧
      bindStandard (imagePassed .null) (imageScript (.int 0)) = .ok 1 (imageScript .null) ∧
      setFromParam .standard (.int 0) (.object .image .null) (imageScript .null) =
        .error (.notItem (.object .image .null)) (imageScript .null) ∧
      bindStandard (imagePassed (.bool true)) (imageScript (.int 0)) =
        .ok 1 (imageScript (.bool true)) ∧
      command .standard (imageScript (.bool true)) = .ok "(s True)" (imageScript (.bool true)) ∧
      ¬IsNumeral "True" :=
  ⟨script_imageRegistration, rfl, rfl, rfl, rfl, not_isNumeral_true⟩

end Script

end ScriptCatalog
