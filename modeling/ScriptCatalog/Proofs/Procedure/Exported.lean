import ScriptCatalog.Procedure.Build
import ScriptCatalog.Proofs.Script.Outline

/-! Procedures of scripts. A script that says everything in texts always has a procedure, which
tells of its arguments no more than their types and labels. -/

namespace ScriptCatalog

namespace Profile

def AllTexts (profile : Profile) : Prop :=
  ∀ field ∈ profile.fields, ∃ words, field.2 = .text words

theorem AllTexts.of_part {profile : Profile} (texts : profile.AllTexts) (field : String)
    (part : Profile → Datum) (member : (field, part) ∈ parts) :
    ∃ words, part profile = .text words :=
  texts (field, part profile) (List.mem_map.mpr ⟨(field, part), member, rfl⟩)

theorem AllTexts.name {profile : Profile} (texts : profile.AllTexts) :
    ∃ words, profile.name = .text words :=
  texts.of_part "name" (·.name) (by simp [parts])

theorem allTexts_plain (name : String) : (plain name).AllTexts := by
  intro field member
  simp only [fields, parts, List.map_cons, List.map_nil, List.mem_cons, List.not_mem_nil,
    or_false] at member
  rcases member with rfl | rfl | rfl | rfl | rfl | rfl | rfl <;> exact ⟨_, rfl⟩

/-- The label that a profile of texts has in menus. -/
def menuEntry (profile : Profile) : Option Label :=
  match Label.shown profile.menuLabel with
  | .ok label => label
  | .error _ => none

end Profile

/-- The procedure of a script with a profile of texts. -/
def Procedure.exported (kind : ProcedureKind) (profile : Profile) (arguments : List Argument) :
    Procedure := ofScript kind profile profile.menuEntry arguments

theorem ProcedureParameter.ofArgument_congr {argument changed : Argument}
    (same : changed.outline = argument.outline) :
    ofArgument changed = ofArgument argument := by
  obtain ⟨kind, label, default, value⟩ := argument
  obtain ⟨_, _, otherDefault, otherValue⟩ := changed
  cases same
  rfl

theorem zipWith_congr_outline {α β : Type} (make : Argument → α → β)
    (respects : ∀ changed argument : Argument, changed.outline = argument.outline →
      make changed = make argument)
    {arguments changed : List Argument}
    (same : changed.map Argument.outline = arguments.map Argument.outline) (names : List α) :
    List.zipWith make changed names = List.zipWith make arguments names := by
  induction changed generalizing arguments names with
  | nil =>
      rw [List.map_nil, eq_comm, List.map_eq_nil_iff] at same
      rw [same]
  | cons next changed ih =>
      cases arguments with
      | nil => cases same
      | cons argument arguments =>
          rw [List.map_cons, List.map_cons, List.cons.injEq] at same
          cases names with
          | nil => rfl
          | cons name names =>
              rw [List.zipWith_cons_cons, List.zipWith_cons_cons, ih same.2,
                respects next argument same.1]

theorem Procedure.exported_congr (kind : ProcedureKind) (profile : Profile)
    {arguments changed : List Argument}
    (same : changed.map Argument.outline = arguments.map Argument.outline) :
    exported kind profile changed = exported kind profile arguments := by
  have kinds : changed.map (·.kind) = arguments.map (·.kind) := by
    have firsts := congrArg (List.map Prod.fst) same
    rw [List.map_map, List.map_map] at firsts
    exact firsts
  simp only [exported, ofScript, kinds]
  rw [zipWith_congr_outline _ ?_ same]
  intro next argument alike
  funext name
  rw [ProcedureParameter.ofArgument_congr alike]

namespace Script

theorem reads_shownLabel : shownLabel.Reads :=
  (reads_told _).bind fun _ => Act.reads_ofExcept _

theorem reads_described : described.Reads :=
  (reads_alive.bind fun _ => Act.reads_pure _).bind fun _ =>
    (Act.reads_require _ _).bind fun _ => Act.reads_pure _

variable (kind : ProcedureKind)

theorem reads_procedure : (procedure kind).Reads :=
  reads_name.bind fun _ => (reads_told _).bind fun _ => reads_shownLabel.bind fun _ =>
    reads_described.bind fun _ => reads_arguments.bind fun _ => Act.reads_pure _

/-- Where a script says everything in texts, only its arguments are left to be asked for. -/
theorem procedure_eq_arguments (script : LiveScript) (texts : script.profile.AllTexts) :
    procedure kind (live script) =
      (do return .exported kind script.profile (← Script.arguments) : ScriptAct Procedure)
        (live script) := by
  have told (field : String) (part : Profile → Datum) (member : (field, part) ∈ Profile.parts) :
      Script.told part (live script) = .ok (part script.profile) (live script) := by
    obtain ⟨words, said⟩ := texts.of_part field part member
    rw [said]
    exact told_text part said
  have label : shownLabel (live script) = .ok script.profile.menuEntry (live script) := by
    obtain ⟨words, said⟩ := texts.of_part "menu_label" (·.menuLabel) (by simp [Profile.parts])
    refine (Act.bind_of_ok _ (told "menu_label" (·.menuLabel) (by simp [Profile.parts]))).trans ?_
    rw [Profile.menuEntry, said]
    rfl
  have described : Script.described (live script) = .ok script.profile (live script) := by
    have spoken : Script.profile (live script) = .ok script.profile (live script) := rfl
    refine (Act.bind_of_ok _ spoken).trans ?_
    refine Act.bind_of_ok _ (Act.require_of_true ?_ _ _)
    rw [List.all_eq_true]
    intro field member
    obtain ⟨words, said⟩ := texts field member
    simp only [said]
    rfl
  refine (Act.bind_of_ok _ (told "name" (·.name) (by simp [Profile.parts]))).trans ?_
  refine (Act.bind_of_ok _ (told "image_types" (·.imageTypes) (by simp [Profile.parts]))).trans ?_
  refine (Act.bind_of_ok _ label).trans ?_
  exact Act.bind_of_ok _ described

theorem procedure_of_texts (script : LiveScript) (arguments : List Argument)
    (texts : script.profile.AllTexts) (filled : script.slots = arguments.map some) :
    procedure kind (live script) =
      .ok (.exported kind script.profile arguments) (live script) := by
  rw [procedure_eq_arguments kind script texts]
  exact Act.bind_of_ok _ (arguments_of_slots script arguments filled)

theorem procedure_ofArguments (profile : Profile) (arguments : List Argument)
    (texts : profile.AllTexts) :
    procedure kind (.ofArguments profile arguments) =
      .ok (.exported kind profile arguments) (.ofArguments profile arguments) :=
  procedure_of_texts kind { profile, slots := arguments.map some, held := false } arguments
    texts rfl

/-- Whatever a script says about itself, its procedure tells of its arguments in order. -/
theorem procedure_eq_ok {script : LiveScript} {arguments : List Argument} {after : Script}
    {built : Procedure} (filled : script.slots = arguments.map some)
    (ran : procedure kind (live script) = .ok built after) :
    after = live script ∧ ∃ profile label, built = .ofScript kind profile label arguments := by
  obtain ⟨_, _, named, ran⟩ := (Act.bind_eq_ok _ _ _ _ _).mp ran
  obtain rfl := reads_name.state_eq named
  obtain ⟨_, _, typed, ran⟩ := (Act.bind_eq_ok _ _ _ _ _).mp ran
  obtain rfl := (reads_told _).state_eq typed
  obtain ⟨label, _, labelled, ran⟩ := (Act.bind_eq_ok _ _ _ _ _).mp ran
  obtain rfl := reads_shownLabel.state_eq labelled
  obtain ⟨profile, _, told, ran⟩ := (Act.bind_eq_ok _ _ _ _ _).mp ran
  obtain rfl := reads_described.state_eq told
  rw [Act.bind_of_ok _ (arguments_of_slots script arguments filled)] at ran
  cases ran
  exact ⟨rfl, profile, label, rfl⟩

end Script

end ScriptCatalog
