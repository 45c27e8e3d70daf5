import Mathlib.Algebra.Group.Int.Defs
import ScriptCatalog.Proofs.Argument.Accepted
import ScriptCatalog.Proofs.Procedure.Exported
import ScriptCatalog.Proofs.Script.Registered

/-! Which declarations are valid, and what is reported of those that are not. A list of declarations
is gone through in order up to the first that is not valid. -/

namespace ScriptCatalog

section

variable [Platform]

/-- A wrong value, reported with the script and the position of an argument. -/
def Fault.Reports (script : String) (position : Nat) (fault : Fault) : Prop :=
  fault.kind = .badValue ∧ (s!"{script}: argument {position} ").toList <+: fault.message.toList

namespace Fault

variable {script : String} {position : Nat}

theorem reports_of_message {fault : Fault} {rest : List Char} (bad : fault.kind = .badValue)
    (message : fault.message.toList = s!"{script}: argument {position}".toList ++ ' ' :: rest) :
    fault.Reports script position := by
  refine ⟨bad, rest, ?_⟩
  have spaced : (s!"{script}: argument {position} ").toList =
      s!"{script}: argument {position}".toList ++ [' '] := String.toList_append
  rw [message, spaced, List.append_assoc]
  rfl

theorem reports_notDeclaration : (notDeclaration script position).Reports script position := by
  have message : (notDeclaration script position).message =
      s!"{script}: argument {position}" ++ " is not a (type, label, default) declaration" := rfl
  apply reports_of_message rfl
  rw [message, String.toList_append]
  rfl

theorem reports_unknownDeclaredKind (token : Datum) :
    (unknownDeclaredKind script position token).Reports script position := by
  have message : (unknownDeclaredKind script position token).message =
      s!"{script}: argument {position}" ++ " has unknown type \"" ++ token.display ++ "\"" := rfl
  apply reports_of_message rfl
  rw [message]
  simp only [String.toList_append, List.append_assoc]
  rfl

theorem reports_labelNotText (label : Datum) :
    (labelNotText script position label).Reports script position := by
  have message : (labelNotText script position label).message =
      s!"{script}: argument {position}" ++ " label must be a string, got " ++ label.display := rfl
  apply reports_of_message rfl
  rw [message]
  simp only [String.toList_append, List.append_assoc]
  rfl

theorem reports_invalidDefault (kind : ArgKind) (label : String) (default : Datum)
    (cause : Fault) :
    (invalidDefault script position kind label default cause).Reports script position := by
  have message : (invalidDefault script position kind label default cause).message =
      s!"{script}: argument {position}" ++ " (" ++ kind.token ++ ", \"" ++ label ++
        "\"): invalid default " ++ (default.display ++ ": " ++ cause.message) := rfl
  apply reports_of_message rfl
  rw [message]
  simp only [String.toList_append, List.append_assoc]
  rfl

end Fault

namespace Registration

/-- A declaration and the argument that it declares, whose value is its default. -/
inductive Declares (types : EnumTypes) : Datum → Argument → Prop
  | intro {declaration token default : Datum} {kind : ArgKind} {label : String} {held : Payload}
      (parts : declaration.items? = some [token, .text label, default])
      (typed : ArgKind.ofDatum token = .ok kind)
      (accepted : Payload.Accepts types kind.payloadKind default held) :
      Declares types declaration { kind, label := .text label, default := held, value := held }

/-- A declaration that is valid but for an integer that no number is near to. -/
inductive Oversized : Datum → Prop
  | intro {declaration token default : Datum} {kind : ArgKind} {label : String}
      (parts : declaration.items? = some [token, .text label, default])
      (typed : ArgKind.ofDatum token = .ok kind)
      (oversized : Payload.Oversized kind.payloadKind default) : Oversized declaration

/-- What a declaration consists of, which is a type, a label and a default if it is valid. -/
def parts (declaration : Datum) : List Datum := declaration.items?.getD []

variable {types : EnumTypes} {script : String} {position : Nat} {declaration : Datum}
  {declarations : List Datum} {made : Argument} {fault : Fault}

/-! Single declarations. -/

theorem argument_of_parts {token default : Datum} {kind : ArgKind} {label : String}
    (parts : declaration.items? = some [token, .text label, default])
    (typed : ArgKind.ofDatum token = .ok kind) :
    argument types script position declaration =
      declaredArgument types script position kind label default := by
  simp only [argument, parts, typed]

theorem make_of_accepts {kind : ArgKind} {default : Datum} {held : Payload} (label : Datum)
    (accepted : Payload.Accepts types kind.payloadKind default held) :
    Argument.make types kind label (.payload held) =
      .ok { kind, label, default := held, value := held } := by
  rw [Argument.make, Argument.expectPayload, if_pos (Payload.kind_of_accepts accepted)]
  change held.copy types >>= _ = _
  rw [Payload.copy_of_accepts accepted]
  rfl

theorem declaredArgument_of_accepts {kind : ArgKind} {default : Datum} {held : Payload}
    (label : String) (accepted : Payload.Accepts types kind.payloadKind default held) :
    declaredArgument types script position kind label default =
      .ok { kind, label := .text label, default := held, value := held } := by
  have read := (Payload.ofDefault_eq_ok_iff kind).mpr accepted
  have copied := make_of_accepts (.text label) accepted
  have given : (Payload.ofDefault types kind default >>= fun payload =>
      Argument.make types kind (.text label) (.payload payload)) =
        .ok { kind, label := .text label, default := held, value := held } :=
    (Except.bind_eq_ok _ _ _).mpr ⟨held, read, copied⟩
  simp only [declaredArgument, given]

/-- With an argument type and a label there is an argument if the default is accepted. Otherwise the
declaration is reported, if the default can be written out, or the default has an integer that no
number is near to. -/
theorem declaredArgument_cases (types : EnumTypes) (script : String) (position : Nat)
    (kind : ArgKind) (label : String) (default : Datum) :
    (∃ held, Payload.Accepts types kind.payloadKind default held) ∨
      ∃ fault, declaredArgument types script position kind label default = .error fault ∧
        (∀ held, ¬Payload.Accepts types kind.payloadKind default held) ∧
        (fault.Reports script position ∧ fault.IsTold [default] ∨
          fault = .intTooLarge ∧ Payload.Oversized kind.payloadKind default) := by
  cases read : Payload.ofDefault types kind default with
  | ok held => exact .inl ⟨held, (Payload.ofDefault_eq_ok_iff kind).mp read⟩
  | error cause =>
      have refused (held : Payload) : ¬Payload.Accepts types kind.payloadKind default held := by
        intro accepted
        rw [(Payload.ofDefault_eq_ok_iff kind).mpr accepted] at read
        cases read
      have failed : (Payload.ofDefault types kind default >>= fun payload =>
          Argument.make types kind (.text label) (.payload payload)) = .error cause :=
        (Except.bind_eq_error _ _ _).mpr (.inl read)
      rcases Payload.ofDefault_eq_error kind read with refuses | ⟨rfl, oversized⟩
      · refine .inr ⟨.invalidDefault script position kind label default cause, ?_, refused, .inl ?_⟩
        · simp only [declaredArgument, failed, if_pos refuses.kind]
        · exact ⟨Fault.reports_invalidDefault kind label default cause,
            Fault.isTold_invalidDefault refuses script position kind label⟩
      · refine .inr ⟨.intTooLarge, ?_, refused, .inr ⟨rfl, oversized⟩⟩
        simp only [declaredArgument, failed, Fault.kind, reduceCtorEq, or_self, if_false]

theorem argument_eq_ok_iff :
    argument types script position declaration = .ok made ↔ Declares types declaration made := by
  constructor
  · intro given
    unfold argument at given
    split at given
    next token label default parts =>
      split at given
      next => cases given
      next kind typed =>
        split at given
        next label =>
          rcases declaredArgument_cases types script position kind label default with
            ⟨held, accepted⟩ | ⟨fault, failed, _⟩
          · rw [declaredArgument_of_accepts label accepted] at given
            cases given
            exact .intro parts typed accepted
          · rw [failed] at given
            cases given
        next => cases given
    next => cases given
  · intro declares
    cases declares with
    | intro parts typed accepted =>
        rw [argument_of_parts parts typed]
        exact declaredArgument_of_accepts _ accepted

/-- A declaration that is not valid is reported, if its parts can be written out, or it has an
integer that no number is near to. -/
theorem argument_eq_error (failed : argument types script position declaration = .error fault) :
    fault.Reports script position ∧ fault.IsTold (parts declaration) ∨
      fault = .intTooLarge ∧ Oversized declaration := by
  unfold argument at failed
  split at failed
  next token label default items =>
    have among : parts declaration = [token, label, default] := by
      rw [parts, items, Option.getD_some]
    rw [among]
    split at failed
    next =>
      cases failed
      exact .inl ⟨Fault.reports_unknownDeclaredKind token,
        Fault.isTold_of_shown nofun (List.cons_subset_cons _ (List.nil_subset _))⟩
    next kind typed =>
      split at failed
      next label =>
        rcases declaredArgument_cases types script position kind label default with
          ⟨held, accepted⟩ | ⟨cause, refused, _, reported⟩
        · rw [declaredArgument_of_accepts label accepted] at failed
          cases failed
        · rw [refused] at failed
          cases failed
          refine reported.imp (fun ⟨reports, told⟩ => ⟨reports, told.subset ?_⟩)
            fun ⟨same, oversized⟩ => ⟨same, .intro items typed oversized⟩
          exact List.subset_append_right [token, .text label] [default]
      next =>
        cases failed
        refine .inl ⟨Fault.reports_labelNotText label, Fault.isTold_of_shown nofun ?_⟩
        exact List.subset_cons_of_subset token (List.cons_subset_cons _ (List.nil_subset _))
  next =>
    cases failed
    exact .inl ⟨Fault.reports_notDeclaration, .inl rfl⟩

theorem argument_of_oversized (oversized : Oversized declaration) :
    argument types script position declaration = .error .intTooLarge := by
  cases oversized with
  | @intro token default kind label parts typed oversized =>
      have read : Payload.ofDefault types kind default = .error .intTooLarge :=
        Payload.ofDefault_of_oversized kind oversized
      have failed : (Payload.ofDefault types kind default >>= fun payload =>
          Argument.make types kind (.text label) (.payload payload)) = .error .intTooLarge :=
        (Except.bind_eq_error _ _ _).mpr (.inl read)
      rw [argument_of_parts parts typed]
      simp only [declaredArgument, failed, Fault.kind, reduceCtorEq, or_self, if_false]

/-! Lists of declarations. -/

theorem arguments_eq_ok_iff {arguments : List Argument} :
    Registration.arguments types script position declarations = .ok arguments ↔
      List.Forall₂ (Declares types) declarations arguments := by
  induction declarations generalizing position arguments with
  | nil =>
      rw [List.forall₂_nil_left_iff]
      constructor
      · rintro ⟨⟩
        rfl
      · rintro rfl
        rfl
  | cons declaration declarations ih =>
      rw [Registration.arguments, Except.bind_eq_ok, List.forall₂_cons_left_iff]
      constructor
      · rintro ⟨first, given, rest⟩
        obtain ⟨others, givenRest, same⟩ := (Except.bind_eq_ok _ _ _).mp rest
        cases same
        exact ⟨first, others, argument_eq_ok_iff.mp given, ih.mp givenRest, rfl⟩
      · rintro ⟨first, others, declares, rest, rfl⟩
        refine ⟨first, argument_eq_ok_iff.mpr declares, ?_⟩
        rw [Except.bind_eq_ok]
        exact ⟨others, ih.mpr rest, rfl⟩

/-- The first declaration that is not valid decides what is reported. -/
theorem arguments_eq_error
    (failed : Registration.arguments types script position declarations = .error fault) :
    ∃ before declaration rest, declarations = before ++ declaration :: rest ∧
      (∀ earlier ∈ before, ∃ argument, Declares types earlier argument) ∧
      argument types script (position + before.length) declaration = .error fault := by
  induction declarations generalizing position with
  | nil => cases failed
  | cons declaration declarations ih =>
      rw [Registration.arguments] at failed
      rcases (Except.bind_eq_error _ _ _).mp failed with failed | ⟨first, given, failed⟩
      · exact ⟨[], declaration, declarations, rfl, nofun, failed⟩
      · rcases (Except.bind_eq_error _ _ _).mp failed with failed | ⟨_, _, finished⟩
        · obtain ⟨before, next, rest, rfl, valid, failed⟩ := ih failed
          refine ⟨declaration :: before, next, rest, rfl, ?_, ?_⟩
          · exact List.forall_mem_cons.mpr ⟨⟨first, argument_eq_ok_iff.mp given⟩, valid⟩
          · rw [List.length_cons, Nat.add_comm before.length, ← Nat.add_assoc]
            exact failed
        · cases finished

end Registration

/-! Registrations. -/

/-- What a script says about itself, in texts. -/
structure ScriptTexts where
  name : String
  menuLabel : String
  blurb : String
  author : String
  copyright : String
  date : String
  imageTypes : String

namespace ScriptTexts

def profile (texts : ScriptTexts) : Profile where
  name := .text texts.name
  menuLabel := .text texts.menuLabel
  blurb := .text texts.blurb
  author := .text texts.author
  copyright := .text texts.copyright
  date := .text texts.date
  imageTypes := .text texts.imageTypes

def registration (texts : ScriptTexts) (declarations : Datum) : Registration where
  name := .text texts.name
  menuLabel := .text texts.menuLabel
  blurb := .text texts.blurb
  author := .text texts.author
  copyright := .text texts.copyright
  date := .text texts.date
  imageTypes := .text texts.imageTypes
  declarations := declarations

theorem profile_injective : Function.Injective profile := by
  rintro ⟨⟩ ⟨⟩ same
  simpa only [profile, Profile.mk.injEq, Datum.text.injEq, mk.injEq] using same

theorem allTexts_profile (texts : ScriptTexts) : texts.profile.AllTexts := by
  intro field member
  simp only [Profile.fields, Profile.parts, List.map_cons, List.map_nil, List.mem_cons,
    List.not_mem_nil, or_false] at member
  rcases member with rfl | rfl | rfl | rfl | rfl | rfl | rfl <;> exact ⟨_, rfl⟩

def plain (name : String) : ScriptTexts where
  name := name
  menuLabel := ""
  blurb := ""
  author := ""
  copyright := ""
  date := ""
  imageTypes := ""

end ScriptTexts

namespace Registration

variable {types : EnumTypes} {texts : ScriptTexts} {journal after : Journal}
  {declarations : Datum} {items : List Datum}

theorem fieldText_eq_ok {script field : String} {value held : Datum}
    (given : fieldText script field value = .ok held) :
    ∃ words, value = .text words ∧ held = .text words := by
  cases value <;> cases given
  exact ⟨_, rfl, rfl⟩

theorem scriptName_eq_ok {value : Datum} {name : String} (given : scriptName value = .ok name) :
    value = .text name ∧ name ≠ "" := by
  cases value with
  | text words =>
      by_cases empty : words.isEmpty = true
      · rw [scriptName, if_pos empty] at given
        cases given
      · rw [scriptName, if_neg empty] at given
        cases given
        rw [String.isEmpty_iff] at empty
        exact ⟨rfl, empty⟩
  | _ => cases given

theorem scriptName_text {name : String} (named : name ≠ "") :
    scriptName (.text name) = .ok name := by
  have filled : ¬name.isEmpty = true := by
    rw [String.isEmpty_iff]
    exact named
  rw [scriptName, if_neg filled]

theorem listed_of_items (listed : declarations.items? = some items) :
    (texts.registration declarations).listed = .ok items := by
  have held : (texts.registration declarations).declarations.items? = some items := listed
  simp only [Registration.listed, held]

/-- A registration that is described in texts gives what its declarations give. -/
theorem script_of_texts (types : EnumTypes) (named : texts.name ≠ "")
    (listed : declarations.items? = some items) :
    (texts.registration declarations).script types = do
      return .ofArguments texts.profile (← arguments types texts.name 1 items) := by
  rw [Registration.script]
  have name : scriptName (texts.registration declarations).name = .ok texts.name :=
    scriptName_text named
  rw [name]
  change (texts.registration declarations).listed >>= _ = _
  rw [listed_of_items listed]
  rfl

theorem listed_eq_ok {registration : Registration} (given : registration.listed = .ok items) :
    registration.declarations.items? = some items := by
  unfold listed at given
  split at given
  next held =>
    cases given
    exact held
  next => cases given

/-- Whatever registers is described in texts and has valid declarations only. -/
theorem declared_of_script {registration : Registration} {script : Script}
    (given : registration.script types = .ok script) :
    ∃ (texts : ScriptTexts) (items : List Datum) (arguments : List Argument),
      registration = texts.registration registration.declarations ∧
      texts.name ≠ "" ∧ registration.declarations.items? = some items ∧
      script = .ofArguments texts.profile arguments ∧
      List.Forall₂ (Declares types) items arguments := by
  obtain ⟨name, told, rest⟩ := (Except.bind_eq_ok _ _ _).mp given
  obtain ⟨profile, described, rest⟩ := (Except.bind_eq_ok _ _ _).mp rest
  obtain ⟨items, counted, rest⟩ := (Except.bind_eq_ok _ _ _).mp rest
  obtain ⟨arguments, made, same⟩ := (Except.bind_eq_ok _ _ _).mp rest
  obtain ⟨isName, named⟩ := scriptName_eq_ok told
  obtain ⟨_, saidMenuLabel, fields⟩ := (Except.bind_eq_ok _ _ _).mp described
  obtain ⟨_, saidBlurb, fields⟩ := (Except.bind_eq_ok _ _ _).mp fields
  obtain ⟨_, saidAuthor, fields⟩ := (Except.bind_eq_ok _ _ _).mp fields
  obtain ⟨_, saidCopyright, fields⟩ := (Except.bind_eq_ok _ _ _).mp fields
  obtain ⟨_, saidDate, fields⟩ := (Except.bind_eq_ok _ _ _).mp fields
  obtain ⟨_, saidImageTypes, fields⟩ := (Except.bind_eq_ok _ _ _).mp fields
  obtain ⟨menuLabel, isMenuLabel, rfl⟩ := fieldText_eq_ok saidMenuLabel
  obtain ⟨blurb, isBlurb, rfl⟩ := fieldText_eq_ok saidBlurb
  obtain ⟨author, isAuthor, rfl⟩ := fieldText_eq_ok saidAuthor
  obtain ⟨copyright, isCopyright, rfl⟩ := fieldText_eq_ok saidCopyright
  obtain ⟨date, isDate, rfl⟩ := fieldText_eq_ok saidDate
  obtain ⟨imageTypes, isImageTypes, rfl⟩ := fieldText_eq_ok saidImageTypes
  cases fields
  cases same
  refine ⟨{ name, menuLabel, blurb, author, copyright, date, imageTypes }, items, arguments, ?_,
    named, listed_eq_ok counted, rfl, arguments_eq_ok_iff.mp made⟩
  rw [ScriptTexts.registration, ← isName, ← isMenuLabel, ← isBlurb, ← isAuthor, ← isCopyright,
    ← isDate, ← isImageTypes]

/-- Declarations that are accepted one by one register a script with their arguments. -/
theorem register_of_declares (named : texts.name ≠ "") (listed : declarations.items? = some items)
    {arguments : List Argument} (declared : List.Forall₂ (Declares types) items arguments)
    (journal : Journal) :
    ∃ after, (texts.registration declarations).register types journal =
      .ok (.ofArguments texts.profile arguments) after := by
  have given := script_of_texts types named listed
  rw [arguments_eq_ok_iff.mpr declared] at given
  exact register_of_ok given journal

theorem register_of_texts (types : EnumTypes) (named : texts.name ≠ "")
    (listed : declarations.items? = some items) (journal : Journal) :
    (∃ arguments after, (texts.registration declarations).register types journal =
        .ok (.ofArguments texts.profile arguments) after ∧
      List.Forall₂ (Declares types) items arguments) ∨
    ∃ fault, (texts.registration declarations).register types journal = .error fault journal ∧
      Registration.arguments types texts.name 1 items = .error fault := by
  have given := script_of_texts types named listed
  cases made : Registration.arguments types texts.name 1 items with
  | ok arguments =>
      rw [made] at given
      obtain ⟨after, ran⟩ := register_of_ok given journal
      exact .inl ⟨arguments, after, ran, arguments_eq_ok_iff.mp made⟩
  | error fault =>
      rw [made] at given
      refine .inr ⟨fault, ?_, rfl⟩
      have name : scriptName (texts.registration declarations).name = .ok texts.name :=
        scriptName_text named
      rw [register, name, given]
      rfl

theorem error_of_arguments {fault : Fault} (named : texts.name ≠ "")
    (listed : declarations.items? = some items)
    (refused : Registration.arguments types texts.name 1 items = .error fault) (journal : Journal) :
    (texts.registration declarations).register types journal = .error fault journal := by
  rcases register_of_texts types named listed journal with
    ⟨arguments, _, _, valid⟩ | ⟨cause, failed, same⟩
  · rw [arguments_eq_ok_iff.mpr valid] at refused
    cases refused
  · rw [refused] at same
    cases same
    exact failed

/-- A declaration is valid if and only if it can be registered alone. -/
theorem declares_iff_registers_alone (named : texts.name ≠ "") (declaration : Datum)
    (journal : Journal) :
    (∃ argument, Declares types declaration argument) ↔
      ∃ script after, (texts.registration (.list [declaration])).register types journal =
        .ok script after := by
  have listed : (Datum.list [declaration]).items? = some [declaration] := rfl
  rcases register_of_texts types named listed journal with
    ⟨arguments, after, ran, valid⟩ | ⟨fault, failed, refused⟩
  · rw [List.forall₂_cons_left_iff] at valid
    obtain ⟨argument, _, declares, _⟩ := valid
    exact ⟨fun _ => ⟨_, after, ran⟩, fun _ => ⟨argument, declares⟩⟩
  · constructor
    · rintro ⟨argument, declares⟩
      have made : arguments types texts.name 1 [declaration] = .ok [argument] :=
        arguments_eq_ok_iff.mpr (.cons declares .nil)
      rw [made] at refused
      cases refused
    · rintro ⟨script, after, ran⟩
      rw [failed] at ran
      cases ran

/-- Declarations that are not valid are reported, with two exceptions. Either every declaration is
valid and there is a script, or the first that is not valid is reported by its position, counted
from one. One exception is a declaration that is valid but for an integer that no number is near to:
it is not reported, and what failed is the conversion of that integer. The other is a declaration
with a part that cannot be written out: what is raised can be the fault of writing it. -/
theorem first_invalid_declaration_reported (types : EnumTypes) (texts : ScriptTexts)
    (journal : Journal) (named : texts.name ≠ "") (listed : declarations.items? = some items) :
    (∀ declaration, (∃ argument, Declares types declaration argument) ↔
      ∃ script after, (texts.registration (.list [declaration])).register types journal =
        .ok script after) ∧
    ((∃ arguments after, (texts.registration declarations).register types journal =
        .ok (.ofArguments texts.profile arguments) after ∧
      List.Forall₂ (Declares types) items arguments) ∨
    ∃ before declaration rest fault, items = before ++ declaration :: rest ∧
      (∀ earlier ∈ before, ∃ argument, Declares types earlier argument) ∧
      (¬∃ argument, Declares types declaration argument) ∧
      (texts.registration declarations).register types journal = .error fault journal ∧
      (Oversized declaration ∧ fault.raised = .intTooLarge ∨
        ¬Oversized declaration ∧
          (fault.raised.Reports texts.name (before.length + 1) ∨
            (∃ part ∈ parts declaration, part.unshown? ≠ none) ∧
              ∃ obstacle : Obstacle, fault.raised = obstacle.fault))) := by
  refine ⟨fun declaration => declares_iff_registers_alone named declaration journal, ?_⟩
  refine (register_of_texts types named listed journal).imp_right ?_
  rintro ⟨fault, failed, refused⟩
  obtain ⟨before, declaration, rest, split, valid, refused⟩ := arguments_eq_error refused
  rw [Nat.add_comm] at refused
  have invalid : ¬∃ argument, Declares types declaration argument := by
    rintro ⟨argument, declares⟩
    rw [argument_eq_ok_iff.mpr declares] at refused
    cases refused
  refine ⟨before, declaration, rest, fault, split, valid, invalid, failed, ?_⟩
  -- Which fault it is depends on the declaration alone, and not on those before it.
  by_cases oversized : Oversized declaration
  · rw [argument_of_oversized oversized] at refused
    cases refused
    exact .inl ⟨oversized, rfl⟩
  · obtain ⟨reports, told⟩ :=
      (argument_eq_error refused).resolve_right fun escaped => oversized escaped.2
    refine .inr ⟨oversized, told.imp_left fun same => ?_⟩
    rw [same]
    exact reports

end Registration

end

namespace Registration

/-- A toggle, and something that is no declaration. -/
def toggleAndNumber : List Datum :=
  [.tuple [.text ArgKind.toggle.token, .text "A", .bool true], .int 1]

theorem first_invalid_declaration_reported_second :
    ∃ before declaration rest fault, toggleAndNumber = before ++ declaration :: rest ∧
      ((ScriptTexts.plain "s").registration (.list toggleAndNumber)).register
        EnumTypes.standard [] = .error fault [] ∧
      fault.raised.message = "s: argument 2 is not a (type, label, default) declaration" ∧
      (Oversized declaration ∧ fault.raised = .intTooLarge ∨
        ¬Oversized declaration ∧
          (fault.raised.Reports "s" (before.length + 1) ∨
            (∃ part ∈ parts declaration, part.unshown? ≠ none) ∧
              ∃ obstacle : Obstacle, fault.raised = obstacle.fault)) := by
  have valid : Declares EnumTypes.standard
      (.tuple [.text ArgKind.toggle.token, .text "A", .bool true]) _ :=
    .intro rfl (ArgKind.ofDatum_token .toggle) (.toggle true)
  have refused : Registration.arguments EnumTypes.standard "s" 1 toggleAndNumber =
      .error (.notDeclaration "s" 2) := by
    rw [toggleAndNumber, Registration.arguments, argument_eq_ok_iff.mpr valid]
    rfl
  have listed : (Datum.list toggleAndNumber).items? = some toggleAndNumber := rfl
  obtain ⟨_, made | reported⟩ := first_invalid_declaration_reported EnumTypes.standard
    (ScriptTexts.plain "s") [] (by decide) listed
  · obtain ⟨arguments, _, _, made⟩ := made
    rw [arguments_eq_ok_iff.mpr made] at refused
    cases refused
  · obtain ⟨before, declaration, rest, fault, split, _, _, failed, outcome⟩ := reported
    refine ⟨before, declaration, rest, fault, split, failed, ?_, outcome⟩
    have same : ((ScriptTexts.plain "s").registration (.list toggleAndNumber)).register
        EnumTypes.standard [] = .error (.notDeclaration "s" 2) [] :=
      error_of_arguments (by decide) listed refused []
    rw [failed] at same
    cases same
    decide

/-- An adjustment whose value is an integer that no number is near to. -/
def oversizedAdjustment : Datum :=
  .tuple [.text ArgKind.adjustment.token, .text "A",
    .list [.int (10 ^ 400), .int 0, .int 1, .int 1, .int 1, .int 0]]

theorem oversized_adjustment : Oversized oversizedAdjustment := by
  have beyond : Payload.IsBeyond (.int (10 ^ 400)) := ⟨10 ^ 400, rfl, by decide +kernel⟩
  have first : Payload.FirstBeyond [.int (10 ^ 400), .int 0, .int 1, .int 1, .int 1] :=
    ⟨[], _, _, rfl, nofun, beyond⟩
  have listed : (Datum.list [.int (10 ^ 400), .int 0, .int 1, .int 1, .int 1, .int 0]).sequence? =
      some ([.int (10 ^ 400), .int 0, .int 1, .int 1, .int 1] ++ .int 0 :: []) := rfl
  exact .intro rfl (ArgKind.ofDatum_token .adjustment) (.adjustment listed rfl (by decide) first)

/-- The fault of such an integer is no wrong value and names neither script nor position. -/
theorem oversized_default_escapes :
    ((ScriptTexts.plain "s").registration (.list [oversizedAdjustment])).register
        EnumTypes.standard [] = .error .intTooLarge [] ∧
      Fault.raised .intTooLarge = .intTooLarge ∧ Fault.kind .intTooLarge = .overflow ∧
      ¬Fault.Reports "s" 1 .intTooLarge := by
  refine ⟨?_, rfl, rfl, fun reports => absurd reports.1 (by decide)⟩
  have refused : Registration.arguments EnumTypes.standard "s" 1 [oversizedAdjustment] =
      .error .intTooLarge := by
    rw [Registration.arguments, argument_of_oversized oversized_adjustment]
    rfl
  exact error_of_arguments (by decide) rfl refused []

end Registration

end ScriptCatalog
