import ScriptCatalog.Proofs.Command.Parts
import ScriptCatalog.Proofs.Procedure.Exported
import ScriptCatalog.Proofs.Script.Leading
import ScriptCatalog.Proofs.Script.Storing

/-! Scripts with slots that were never filled. What needs all the arguments asks for them before it
does anything. Binding does not: it fills slot after slot and fails at the first one that it looks
at and finds unfilled, or never gets there. -/

namespace ScriptCatalog

section

variable [Platform]

namespace Script

/-- Slots of which the first that was never filled comes after some arguments. -/
def upTo (before : List Argument) (others : List (Option Argument)) : List (Option Argument) :=
  before.map some ++ none :: others

section

variable {before changed : List Argument} {others : List (Option Argument)}

theorem exists_upTo {slots : List (Option Argument)} (unfilled : none ∈ slots) :
    ∃ before others, slots = upTo before others := by
  obtain ⟨filled, others, rfl, all⟩ := List.eq_append_cons_of_mem unfilled
  have complete : firstUndefined filled = none := by
    refine List.findIdx?_eq_none_iff.mpr fun slot member => ?_
    cases slot with
    | none => exact absurd member all
    | some argument => rfl
  refine ⟨filled.filterMap id, others, ?_⟩
  rw [upTo, ← slots_of_firstUndefined filled complete]

theorem firstUndefined_upTo (before : List Argument) (others : List (Option Argument)) :
    firstUndefined (upTo before others) = some before.length := by
  have filled : firstUndefined (before.map some) = none := firstUndefined_map_some before
  rw [firstUndefined] at filled ⊢
  simp [upTo, List.findIdx?_append, List.findIdx?_cons, filled]

theorem getElem?_upTo (before : List Argument) (others : List (Option Argument)) :
    (upTo before others)[before.length]? = some none := by
  simp [upTo]

theorem length_upTo (before : List Argument) (others : List (Option Argument)) :
    (upTo before others).length = before.length + (others.length + 1) := by
  simp [upTo]

theorem upTo_inj {again : List Argument} {more : List (Option Argument)}
    (same : upTo before others = upTo again more) : before = again ∧ others = more := by
  have lengths := congrArg firstUndefined same
  rw [firstUndefined_upTo, firstUndefined_upTo, Option.some.injEq] at lengths
  have filled : (before.map some).length = (again.map some).length := by
    simpa only [List.length_map] using lengths
  obtain ⟨first, rest⟩ := List.append_inj same filled
  refine ⟨?_, (List.cons.inj rest).2⟩
  rw [← filterMap_map_some before, first, filterMap_map_some]

theorem set_upTo (before after : List Argument) (argument : Argument) :
    (upTo before (after.map some)).set before.length (some argument) =
      (before ++ argument :: after).map some := by
  simp [upTo]

/-! What asks for all arguments. -/

variable {α : Type} {profile : Profile} {held : Bool}

/-- The fault that names the first slot that was never filled. -/
def unfilledFault (profile : Profile) (before : List Argument) : Fault :=
  .undefinedArgument profile.name (.int before.length)

/-- An operation that needs a script for itself is refused for the hold if there is one, and
otherwise for what is missing. -/
def refusal (profile : Profile) (before : List Argument) (held : Bool) : Fault :=
  if held then .concurrentAccess profile.name else unfilledFault profile before

theorem arguments_upTo (profile : Profile) (before : List Argument)
    (others : List (Option Argument)) (held : Bool) :
    arguments (live ⟨profile, upTo before others, held⟩) =
      .error (unfilledFault profile before) (live ⟨profile, upTo before others, held⟩) := by
  refine (Act.bind_of_ok _ (rfl : alive _ = .ok _ _)).trans ?_
  rw [firstUndefined_upTo]
  rfl

/-- What is done with all arguments, and with the script for itself, is not begun. -/
theorem exclusively_upTo (next : List Argument → ScriptAct α) (profile : Profile)
    (before : List Argument) (others : List (Option Argument)) (held : Bool) :
    exclusively (arguments >>= next) (live ⟨profile, upTo before others, held⟩) =
      .error (refusal profile before held) (live ⟨profile, upTo before others, held⟩) := by
  cases held with
  | true => exact Act.bind_of_error _ (acquire_live _)
  | false =>
      refine exclusively_error rfl rfl ?_
      exact Act.bind_of_error _ (arguments_upTo profile before others true)

/-- Everything that needs all the arguments of a script fails and changes nothing. -/
structure Refused (before : List Argument) (script : LiveScript) : Prop where
  listed : arguments (live script) =
    .error (unfilledFault script.profile before) (live script)
  exported : ∀ kind, procedure kind (live script) =
    .error (unfilledFault script.profile before) (live script)
  restored : ∀ types resetIds, reset types resetIds (live script) =
    .error (refusal script.profile before script.held) (live script)
  rendered : ∀ precision, command precision (live script) =
    .error (refusal script.profile before script.held) (live script)
  passed : ∀ types precision (invocation : Invocation), invocation.isNull = false →
    passedCommand types precision invocation (live script) =
      .error (refusal script.profile before script.held) (live script)

theorem refused_upTo (texts : profile.AllTexts) (before : List Argument)
    (others : List (Option Argument)) (held : Bool) :
    Refused before ⟨profile, upTo before others, held⟩ where
  listed := arguments_upTo profile before others held
  exported kind := by
    rw [procedure_eq_arguments kind _ texts]
    exact Act.bind_of_error _ (arguments_upTo profile before others held)
  restored _ _ := exclusively_upTo _ profile before others held
  rendered _ := exclusively_upTo _ profile before others held
  passed types precision invocation there := by
    have given : (!invocation.isNull) = true := by
      rw [there]
      rfl
    refine (Act.bind_of_ok _ (Act.require_of_true given _ _)).trans ?_
    exact exclusively_upTo _ profile before others held

/-! Binding. -/

variable {invocation : Invocation} {items : List Datum} {count : Nat}

/-- A beginning after which binding looks at no further slot: it holds something of an image. -/
def IsWhole (arguments : List Argument) (items : List Datum) (count : Nat) : Prop :=
  ∃ start, Displays arguments items start ∧ Passes arguments items [.image] start ∧
    Passes arguments items itemKinds (start + 1) ∧ count = start + 2

/-- Binding that many arguments comes to the slot after them, for which a value was passed. -/
def ComesTo (before : List Argument) (items : List Datum) (count : Nat) : Prop :=
  count = before.length ∧ before.length + 1 < items.length ∧ ¬IsWhole before items count

theorem not_comesTo_of_whole (whole : IsWhole before items count) :
    ¬ComesTo before items count := fun comes => comes.2.2 whole

/-- Whether the next slot is the unfilled one, with a value for it. -/
def Missing (before : List Argument) (items : List Datum) (count : Nat) : Prop :=
  count = before.length ∧ before.length + 1 < items.length

theorem ComesTo.missing (comes : ComesTo before items count) : Missing before items count :=
  ⟨comes.1, comes.2.1⟩

/-- Nothing matches an unfilled slot. -/
theorem Missing.not_passes (missing : Missing before items count) (kinds : List ArgKind) :
    ¬Passes before items kinds count := by
  intro passes
  have inside := passes.bounds.1
  rw [missing.1] at inside
  exact absurd inside (lt_irrefl _)

/-- An action fails where the next slot is the unfilled one. -/
def FailsAt (before : List Argument) (others : List (Option Argument)) (items : List Datum)
    (count : Nat) (act : ScriptAct Bool) : Prop :=
  Missing before items count → ∀ (changed : List Argument) profile held,
    changed.length = before.length →
      act (live ⟨profile, upTo changed others, held⟩) =
        .error (unfilledFault profile before) (live ⟨profile, upTo changed others, held⟩)

theorem failsAt_bindArgument (listed : invocation.itemsByPosition 1 = .ok items) (kind : ArgKind)
    (small : (count : Int) < indexLimit) :
    FailsAt before others items count (bindArgument invocation kind count) := by
  rintro ⟨rfl, given⟩ changed profile held sameLength
  have slot : (upTo changed others)[before.length]? = some none := by
    rw [← sameLength]
    exact getElem?_upTo changed others
  exact bindArgument_slot listed kind small slot (List.getElem?_eq_getElem given) profile held

theorem failsAt_bindFirst (listed : invocation.itemsByPosition 1 = .ok items)
    (small : (count : Int) < indexLimit) (kind : ArgKind) (kinds : List ArgKind) :
    FailsAt before others items count (bindFirst invocation count (kind :: kinds)) := by
  intro missing changed profile held sameLength
  have failed : FailsAt before others items count (bindArgument invocation kind count) :=
    failsAt_bindArgument listed kind small
  exact Act.bind_of_error _ (failed missing changed profile held sameLength)

/-- The next slot is the unfilled one, or it is bound, or it does not match. -/
theorem Attempts.upTo_cases {kinds : List ArgKind} {act : ScriptAct Bool}
    {between : List Argument} (attempts : Attempts (none :: others) items kinds count act)
    (fails : FailsAt before others items count act) (few : count ≤ before.length)
    (binds : Binds count items before between) (profile : Profile) (held : Bool) :
    (Missing before items count ∧ act (live ⟨profile, upTo between others, held⟩) =
        .error (unfilledFault profile before) (live ⟨profile, upTo between others, held⟩)) ∨
      (¬Missing before items count ∧ ¬Passes before items kinds count ∧
        act (live ⟨profile, upTo between others, held⟩) =
          .ok false (live ⟨profile, upTo between others, held⟩)) ∨
      ∃ next, Passes before items kinds count ∧ Binds (count + 1) items before next ∧
        act (live ⟨profile, upTo between others, held⟩) =
          .ok true (live ⟨profile, upTo next others, held⟩) := by
  by_cases missing : Missing before items count
  · exact .inl ⟨missing, fails missing between profile held binds.length⟩
  · have unseen : count < before.length ∨ items.length ≤ count + 1 := by
      rcases Nat.lt_or_eq_of_le few with inside | same
      · exact .inl inside
      · refine .inr (Nat.le_of_not_lt fun given => missing ⟨same, ?_⟩)
        rw [← same]
        exact given
    rcases attempts.next binds (.inr unseen) profile held with refused | bound
    · exact .inr (.inl ⟨missing, refused⟩)
    · exact .inr (.inr bound)

/-- How binding ends: at the unfilled slot, if it comes there, or before it. -/
def Ends (profile : Profile) (before : List Argument) (items : List Datum) (count : Nat)
    (after : Script) (result : EStateM.Result Fault Script Nat) : Prop :=
  ComesTo before items count ∧ result = .error (unfilledFault profile before) after ∨
    ¬ComesTo before items count ∧ result = .ok count after

/-- What is looked for first, a display, is bound, or is not there, or its slot is unfilled. -/
theorem displays_upTo (listed : invocation.itemsByPosition 1 = .ok items)
    (before : List Argument) (others : List (Option Argument)) (profile : Profile) (held : Bool) :
    (Missing before items 0 ∧
      bindArgument invocation .display 0 (live ⟨profile, upTo before others, held⟩) =
        .error (unfilledFault profile before) (live ⟨profile, upTo before others, held⟩)) ∨
    ∃ bound between, Displays before items (if bound then 1 else 0) ∧
      (∀ other, Displays before items other → other ≤ if bound then 1 else 0) ∧
      Binds (if bound then 1 else 0) items before between ∧
      bindArgument invocation .display 0 (live ⟨profile, upTo before others, held⟩) =
        .ok bound (live ⟨profile, upTo between others, held⟩) := by
  by_cases missing : Missing before items 0
  · have fails : FailsAt before others items 0 (bindArgument invocation .display 0) :=
      failsAt_bindArgument listed .display (by decide)
    exact .inl ⟨missing, fails missing before profile held rfl⟩
  · refine .inr (exists_displays listed before (none :: others) (.inr ?_) profile held)
    by_contra seen
    exact missing ⟨by omega, by omega⟩

theorem bindHeld_upTo (listed : invocation.itemsByPosition 1 = .ok items)
    (before : List Argument) (others : List (Option Argument)) (profile : Profile) (held : Bool) :
    ∃ count changed, IsGreatest {length | Leading before items length} count ∧
      Binds count items before changed ∧
      Ends profile before items count (live ⟨profile, upTo changed others, held⟩)
        (bindHeld invocation (live ⟨profile, upTo before others, held⟩)) := by
  have limit : (2 : Int) < indexLimit := by decide
  unfold bindHeld
  rcases displays_upTo listed before others profile held with
    ⟨missing, failed⟩ | ⟨shown, between, displays, most, binds, ran⟩
  · -- There is nothing before the unfilled slot.
    refine ⟨0, before, ⟨.display .missing, fun other leading => ?_⟩, Binds.refl items before,
      .inl ⟨⟨missing.1, missing.2, ?_⟩, Act.bind_of_error _ failed⟩⟩
    · rw [missing.1]
      exact leading.bounds.2.1
    · rintro ⟨start, _, _, _, same⟩
      omega
  have few := (Leading.display displays).bounds.2.1
  have single := displays.le_one
  rw [Act.bind_of_ok _ ran]
  generalize (if shown = true then 1 else 0) = start at displays most binds few single ⊢
  have image : Attempts (none :: others) items [.image] start
      (bindArgument invocation .image start) :=
    attempts_bindArgument listed .image (by omega) _
  have imageFails : FailsAt before others items start (bindArgument invocation .image start) :=
    failsAt_bindArgument listed .image (by omega)
  rcases image.upTo_cases imageFails few binds profile held with
    ⟨missing, failed⟩ | ⟨passed, refused, ran⟩ | ⟨next, passes, binds, ran⟩
  · refine ⟨start, between, isGreatest_of_no_image displays most (missing.not_passes _), binds,
      .inl ⟨⟨missing.1, missing.2, ?_⟩, Act.bind_of_error _ failed⟩⟩
    rintro ⟨other, _, _, _, same⟩
    omega
  · exact ⟨start, between, isGreatest_of_no_image displays most refused, binds,
      .inr ⟨fun comes => passed comes.missing, Act.bind_of_ok _ ran⟩⟩
  have few := (Leading.image displays passes).bounds.2.1
  have item : Attempts (none :: others) items itemKinds (start + 1)
      (bindFirst invocation (start + 1) itemKinds) :=
    attempts_bindFirst listed (by omega) itemKinds _
  have itemFails : FailsAt before others items (start + 1)
      (bindFirst invocation (start + 1) itemKinds) :=
    failsAt_bindFirst listed (by omega) .drawable [.layer, .channel, .vectors]
  rcases item.upTo_cases itemFails few binds profile held with
    ⟨missing, failed⟩ | ⟨passed, refused, ranItem⟩ | ⟨last, more, binds, ranItem⟩
  · refine ⟨start + 1, next, isGreatest_of_image displays most passes (missing.not_passes _), binds,
      .inl ⟨⟨missing.1, missing.2, ?_⟩,
        (Act.bind_of_ok _ ran).trans (Act.bind_of_error _ failed)⟩⟩
    rintro ⟨other, others, otherImage, _, same⟩
    cases displays.eq_of_image most others otherImage
    omega
  · exact ⟨start + 1, next, isGreatest_of_image displays most passes refused, binds,
      .inr ⟨fun comes => passed comes.missing,
        (Act.bind_of_ok _ ran).trans (Act.bind_of_ok _ ranItem)⟩⟩
  · exact ⟨start + 2, last, isGreatest_of_item displays most passes more, binds,
      .inr ⟨not_comesTo_of_whole ⟨start, displays, passes, more, rfl⟩,
        (Act.bind_of_ok _ ran).trans (Act.bind_of_ok _ ranItem)⟩⟩

/-- What binding does to a script with an unfilled slot: the longest matching beginning of the
arguments before that slot is bound, and then binding fails if it comes to that slot. -/
def BindsBefore (before : List Argument) (others : List (Option Argument)) (invocation : Invocation)
    (items : List Datum) (script : LiveScript) : Prop :=
  ∃ count changed, IsGreatest {length | Leading before items length} count ∧
    Binds count items before changed ∧
    Ends script.profile before items count (live { script with slots := upTo changed others })
      (bindStandard invocation (live script))

theorem isNull_of_listed (listed : invocation.itemsByPosition 1 = .ok items) :
    invocation.isNull = false := by
  cases invocation <;> first | rfl | cases listed

theorem bindsBefore_upTo (texts : profile.AllTexts)
    (listed : invocation.itemsByPosition 1 = .ok items) (before : List Argument)
    (others : List (Option Argument)) :
    BindsBefore before others invocation items ⟨profile, upTo before others, false⟩ := by
  obtain ⟨count, changed, greatest, binds, ends⟩ :=
    bindHeld_upTo listed before others profile true
  refine ⟨count, changed, greatest, binds, ?_⟩
  have given : (!invocation.isNull) = true := by
    rw [isNull_of_listed listed]
    rfl
  have begun {result : EStateM.Result Fault Script Nat}
      (ran : (exclusively (bindHeld invocation) >>= fun bound => name >>= fun _ => pure bound)
        (live ⟨profile, upTo before others, false⟩) = result) :
      bindStandard invocation (live ⟨profile, upTo before others, false⟩) = result :=
    (Act.bind_of_ok _ (Act.require_of_true given _ _)).trans ran
  rcases ends with ⟨comes, failed⟩ | ⟨passed, ran⟩
  · have stopped : exclusively (bindHeld invocation) (live ⟨profile, upTo before others, false⟩) =
        .error (unfilledFault profile before) (live ⟨profile, upTo changed others, false⟩) :=
      exclusively_error rfl rfl failed
    exact .inl ⟨comes, begun (Act.bind_of_error _ stopped)⟩
  · refine .inr ⟨passed, begun ?_⟩
    obtain ⟨words, named⟩ := texts.name
    have bound : exclusively (bindHeld invocation) (live ⟨profile, upTo before others, false⟩) =
        .ok count (live ⟨profile, upTo changed others, false⟩) := exclusively_ok rfl rfl ran
    exact (Act.bind_of_ok _ bound).trans (Act.bind_of_ok _ (told_text (·.name) named))

/-! A script whose last slot was filled. -/

/-- Everything that needs all the arguments of a script takes them in order. -/
structure WorksInOrder (profile : Profile) (arguments : List Argument) : Prop where
  listed : Script.arguments (ofArguments profile arguments) =
    .ok arguments (ofArguments profile arguments)
  exported : ∀ kind, procedure kind (ofArguments profile arguments) =
    .ok (.exported kind profile arguments) (ofArguments profile arguments)
  restored : ∀ types resetIds restored,
    List.Forall₂ (fun argument next => Argument.reset types resetIds argument = .ok () next)
        arguments restored →
      reset types resetIds (ofArguments profile arguments) = .ok () (ofArguments profile restored)
  rendered : ∀ precision name words, profile.name = .text name →
    List.Forall₂ (fun argument word => argument.value.token precision = .ok (.text word))
        arguments words →
      command precision (ofArguments profile arguments) =
        .ok (commandText name words) (ofArguments profile arguments)
  passed : ∀ types precision (invocation : Invocation) items name words,
    profile.name = .text name → invocation.itemsByPosition 1 = .ok items →
    arguments.length < items.length →
    List.Forall₂
        (fun slot word => slot.1.value.paramToken types precision slot.2 = .ok (.text word))
        (arguments.zip items.tail) words →
      passedCommand types precision invocation (ofArguments profile arguments) =
        .ok (commandText name words) (ofArguments profile arguments)
  bound : ∀ (invocation : Invocation) items, invocation.itemsByPosition 1 = .ok items →
    ∃ count changed, bindStandard invocation (ofArguments profile arguments) =
        .ok count (ofArguments profile changed) ∧
      IsGreatest {length | Leading arguments items length} count ∧
      Binds count items arguments changed

theorem worksInOrder_of_texts (texts : profile.AllTexts) (arguments : List Argument) :
    WorksInOrder profile arguments where
  listed := arguments_of_slots _ arguments rfl
  exported kind := procedure_ofArguments kind profile arguments texts
  restored types resetIds restored each := by
    refine exclusively_ok rfl rfl ?_
    refine (Act.bind_of_ok _ (arguments_of_slots _ arguments rfl)).trans ?_
    refine forArguments_ok _ profile true arguments restored each.length_eq.symm ?_
    intro index argument next held given
    obtain ⟨inside, rfl⟩ := List.getElem?_eq_some_iff.mp held
    obtain ⟨insideRestored, rfl⟩ := List.getElem?_eq_some_iff.mp given
    exact (List.forall₂_iff_get.mp each).2 index inside insideRestored
  rendered precision name words named each := by
    refine command_ofArguments precision profile arguments name words named ?_
    rw [storedTokens, mapM_eq_ok_iff, List.forall₂_map_right_iff]
    exact each
  passed types precision invocation items name words named listed enough each := by
    refine passedCommand_ofArguments types precision profile arguments name named words listed
      enough ?_
    rw [passedTokens_eq_mapM, mapM_eq_ok_iff, List.forall₂_map_right_iff]
    exact each
  bound invocation items listed := by
    obtain ⟨words, named⟩ := texts.name
    have known : profile.name.isNull = false := by
      rw [named]
      rfl
    exact bindStandard_greatest known listed arguments

/-- Filling the last slot puts the argument in its place. -/
theorem define_upTo (before after : List Argument) (argument : Argument) (profile : Profile)
    (held : Bool) :
    define (.int before.length) argument (live ⟨profile, upTo before (after.map some), held⟩) =
      .ok () (live ⟨profile, (before ++ argument :: after).map some, held⟩) := by
  have inside : before.length < (upTo before (after.map some)).length := by
    rw [length_upTo]
    omega
  have below : Datum.isBelow (upTo before (after.map some)).length (.int before.length) =
      .ok true := by
    simp [Datum.isBelow, inside]
  refine (Act.bind_of_ok _ (rfl : alive _ = .ok _ _)).trans ?_
  rw [below, Act.ofExcept_ok_bind, if_pos rfl, ← set_upTo]
  rfl

end

/-- Whatever needs all the arguments of a script fails while a slot is unfilled, for that slot or
because the script is held, and changes nothing. Binding is no such thing: it binds what matches of
the arguments before the first unfilled slot, and fails only if it then comes to that slot, leaving
what it bound. When the last slot is filled, all of them take the arguments in order. -/
theorem unfilled_slots_refused (script : LiveScript) (unfilled : none ∈ script.slots)
    (texts : script.profile.AllTexts) :
    ∃ before others, script.slots = upTo before others ∧
      Refused before script ∧
      (script.held = true → ∀ invocation : Invocation, invocation.isNull = false →
        bindStandard invocation (live script) =
          .error (.concurrentAccess script.profile.name) (live script)) ∧
      (script.held = false → ∀ (invocation : Invocation) items,
        invocation.itemsByPosition 1 = .ok items →
          BindsBefore before others invocation items script) ∧
      ∀ after, others = after.map some → ∀ argument,
        define (.int before.length) argument (live script) =
          .ok () (live { script with slots := (before ++ argument :: after).map some }) ∧
        WorksInOrder script.profile (before ++ argument :: after) := by
  obtain ⟨profile, slots, held⟩ := script
  obtain ⟨before, others, rfl⟩ := exists_upTo unfilled
  refine ⟨before, others, rfl, refused_upTo texts before others held, ?_, ?_, ?_⟩
  · rintro rfl invocation there
    have given : (!invocation.isNull) = true := by
      rw [there]
      rfl
    refine (Act.bind_of_ok _ (Act.require_of_true given _ _)).trans ?_
    exact Act.bind_of_error _ (Act.bind_of_error _ (acquire_live _))
  · rintro rfl invocation items listed
    exact bindsBefore_upTo texts listed before others
  · rintro after rfl argument
    exact ⟨define_upTo before after argument profile held, worksInOrder_of_texts texts _⟩

end Script

end

namespace Script

/-! A script of which the first slot was filled and the second was not. -/

def halfFilled (argument : Argument) : LiveScript :=
  { profile := .plain "s", slots := [some argument, none], held := false }

def numbered (kind : ArgKind) (id : Int) : Argument :=
  { kind, label := .text "A", default := .itemId (.int (-1)), value := .itemId (.int id) }

/-- The image is bound before the slot for the layer is found unfilled; once it is filled, both are
bound. -/
theorem unfilled_slots_refused_image :
    none ∈ (halfFilled (numbered .image (-1))).slots ∧
      (halfFilled (numbered .image (-1))).profile.AllTexts ∧
      Refused [numbered .image (-1)] (halfFilled (numbered .image (-1))) ∧
      BindsBefore [numbered .image (-1)] []
        (.list [.int 0, .object .image (.int 5), .object .layer (.int 6)])
        [.int 0, .object .image (.int 5), .object .layer (.int 6)]
        (halfFilled (numbered .image (-1))) ∧
      define (.int 1) (numbered .layer (-1)) (live (halfFilled (numbered .image (-1)))) =
        .ok () (ofArguments (.plain "s") [numbered .image (-1), numbered .layer (-1)]) ∧
      WorksInOrder (.plain "s") [numbered .image (-1), numbered .layer (-1)] := by
  have unfilled : none ∈ (halfFilled (numbered .image (-1))).slots := by simp [halfFilled]
  have texts : (halfFilled (numbered .image (-1))).profile.AllTexts := Profile.allTexts_plain "s"
  obtain ⟨before, others, slots, refused, _, binds, fills⟩ :=
    unfilled_slots_refused (halfFilled (numbered .image (-1))) unfilled texts
  have parts : upTo [numbered .image (-1)] [] = upTo before others := slots
  obtain ⟨rfl, rfl⟩ := upTo_inj parts
  obtain ⟨filled, works⟩ := fills [] rfl (numbered .layer (-1))
  exact ⟨unfilled, texts, refused, binds rfl _ _ rfl, filled, works⟩

/-- Binding never comes to the unfilled slot behind a text, and binds the image before one. -/
theorem unfilled_slot_overlooked :
    bindStandard (.list [.int 0, .object .image (.int 5), .object .layer (.int 6)])
        (live (halfFilled ⟨.string, .text "A", .text (.text "x"), .text (.text "x")⟩)) =
      .ok 0 (live (halfFilled ⟨.string, .text "A", .text (.text "x"), .text (.text "x")⟩)) ∧
    bindStandard (.list [.int 0, .object .image (.int 5), .object .layer (.int 6)])
        (live (halfFilled (numbered .image (-1)))) =
      .error (.undefinedArgument (.text "s") (.int 1)) (live (halfFilled (numbered .image 5))) :=
  ⟨rfl, rfl⟩

end Script

end ScriptCatalog
