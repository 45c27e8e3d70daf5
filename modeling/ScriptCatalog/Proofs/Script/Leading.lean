import Mathlib.Order.Bounds.Basic
import ScriptCatalog.Proofs.Command.Rendering
import ScriptCatalog.Script.Binding

/-! The leading values of an invocation. What is bound is the longest beginning of the arguments
that matches a display, an image and something of that image, each of which may be missing. -/

namespace ScriptCatalog

section

variable [Platform]

theorem boundId?_eq_some {kind : ArgKind} {param id : Datum}
    (bound : Script.boundId? kind param = some id) :
    (∃ passed, param = .object passed id) ∧ kind.payloadKind = .itemId := by
  cases param with
  | object passed held =>
      simp only [Script.boundId?] at bound
      cases expected : kind.hostKind? with
      | none =>
          rw [expected] at bound
          cases bound
      | some host =>
          simp only [expected, Option.ite_none_right_eq_some, Option.some.injEq] at bound
          obtain ⟨_, rfl⟩ := bound
          refine ⟨⟨passed, rfl⟩, ?_⟩
          cases kind <;> first | rfl | cases expected
  | _ => cases bound

theorem Argument.assign_itemId {argument : Argument} (id : Datum)
    (form : argument.kind.payloadKind = .itemId) :
    argument.assign (.payload (.itemId id)) = .ok { argument with value := .itemId id } := by
  have same : (Payload.itemId id).kind = argument.kind.payloadKind := form.symm
  rw [assign, expectPayload, if_pos same]
  rfl

namespace Script

/-- Looking at a slot gives its argument, or fails if it was never filled. -/
theorem argumentAt_of_slot (script : LiveScript) {index : Nat} {slot : Option Argument}
    (there : script.slots[index]? = some slot) (small : (index : Int) < indexLimit) :
    argumentAt (.int index) (live script) =
      match slot with
      | some argument => .ok (index, argument) (live script)
      | none => .error (.undefinedArgument script.profile.name (.int index)) (live script) := by
  have reachable : ¬((index : Int) < -indexLimit ∨ indexLimit ≤ (index : Int)) := by
    have positive : 0 < indexLimit := by decide
    omega
  have inside : index < script.slots.length := (List.getElem?_eq_some_iff.mp there).1
  have position : position? script.slots.length index = some index := by
    rw [position?, if_pos (by omega)]
    rfl
  refine (Act.bind_of_ok _ (rfl : alive (live script) = .ok script (live script))).trans ?_
  refine (Act.ofExcept_ok_bind (index : Int) _ _).trans ?_
  simp only [reachable, if_false, position, there]
  cases slot <;> rfl

theorem argumentAt_inside (script : LiveScript) (arguments : List Argument)
    (filled : script.slots = arguments.map some) (index : Nat) (inside : index < arguments.length)
    (small : (index : Int) < indexLimit) :
    argumentAt (.int index) (live script) = .ok (index, arguments[index]) (live script) := by
  have slot : script.slots[index]? = some (some arguments[index]) := by
    rw [filled, List.getElem?_map, List.getElem?_eq_getElem inside]
    rfl
  exact argumentAt_of_slot script slot small

theorem itemsByPosition_of_sequence {invocation : Invocation} {items : List Datum}
    (listed : invocation.sequence? = some items) (asked : Nat) :
    invocation.itemsByPosition asked = .ok items := by
  cases invocation <;> cases listed <;> rfl

theorem sequence_ok {invocation : Invocation} {items : List Datum}
    (listed : invocation.sequence? = some items) :
    invocation.size = .ok items.length ∧
      ∀ index (inside : index < items.length), invocation.itemAt index = .ok items[index] := by
  have positions := itemsByPosition_of_sequence listed
  refine ⟨(itemsByPosition_ok (positions 0)).1, fun index inside => ?_⟩
  rw [itemAt_eq_ok_iff]
  exact ⟨items, positions index, List.getElem?_eq_getElem inside⟩

section

variable {arguments between changed : List Argument} {items : List Datum} {index count : Nat}
  {kinds : List ArgKind} {kind : ArgKind}

/-- Whether the argument at an index is of one of some types and the value passed for it is a
reference of that type. -/
def Passes (arguments : List Argument) (items : List Datum) (kinds : List ArgKind) (index : Nat) :
    Prop :=
  ∃ argument host passed id, arguments[index]? = some argument ∧ argument.kind ∈ kinds ∧
    argument.kind.hostKind? = some host ∧ items[index + 1]? = some (.object passed id) ∧
    passed.isA host = true

/-- The lengths of a beginning that matches a display, if there is one. -/
inductive Displays (arguments : List Argument) (items : List Datum) : Nat → Prop
  | missing : Displays arguments items 0
  | passed (display : Passes arguments items [.display] 0) : Displays arguments items 1

/-- The lengths of the beginnings that match a display, then an image, then something of that
image, where each may be missing and nothing of an image comes without it. -/
inductive Leading (arguments : List Argument) (items : List Datum) : Nat → Prop
  | display {start : Nat} (displays : Displays arguments items start) :
      Leading arguments items start
  | image {start : Nat} (displays : Displays arguments items start)
      (image : Passes arguments items [.image] start) : Leading arguments items (start + 1)
  | item {start : Nat} (displays : Displays arguments items start)
      (image : Passes arguments items [.image] start)
      (item : Passes arguments items itemKinds (start + 1)) : Leading arguments items (start + 2)

/-- Arguments the first of which took the numbers of the references passed for them, as many as
said, while the others are as before. -/
structure Binds (count : Nat) (items : List Datum) (arguments changed : List Argument) : Prop where
  length : changed.length = arguments.length
  bound : ∀ index argument, arguments[index]? = some argument → index < count →
    ∃ passed id, items[index + 1]? = some (.object passed id) ∧
      changed[index]? = some { argument with value := .itemId id }
  others : ∀ index, count ≤ index → changed[index]? = arguments[index]?

/-! Matching. -/

theorem boundId?_eq_some_iff {value id : Datum} :
    boundId? kind value = some id ↔
      ∃ host passed, kind.hostKind? = some host ∧ value = .object passed id ∧
        passed.isA host = true := by
  cases value with
  | object passed held =>
      simp only [boundId?]
      cases kind.hostKind? with
      | none => simp
      | some host => simp [and_comm]
  | _ => simp [boundId?]

theorem passes_single_iff :
    Passes arguments items [kind] index ↔
      ∃ argument value id, arguments[index]? = some argument ∧ argument.kind = kind ∧
        items[index + 1]? = some value ∧ boundId? kind value = some id := by
  constructor
  · rintro ⟨argument, host, passed, id, there, among, host_eq, given, isA⟩
    cases List.mem_singleton.mp among
    exact ⟨argument, _, id, there, rfl, given,
      boundId?_eq_some_iff.mpr ⟨host, passed, host_eq, rfl, isA⟩⟩
  · rintro ⟨argument, value, id, there, rfl, given, bound⟩
    obtain ⟨host, passed, host_eq, rfl, isA⟩ := boundId?_eq_some_iff.mp bound
    exact ⟨argument, host, passed, id, there, List.mem_singleton_self _, host_eq, given, isA⟩

theorem passes_cons_iff :
    Passes arguments items (kind :: kinds) index ↔
      Passes arguments items [kind] index ∨ Passes arguments items kinds index := by
  constructor
  · rintro ⟨argument, host, passed, id, there, among, rest⟩
    rcases List.mem_cons.mp among with same | later
    · exact .inl ⟨argument, host, passed, id, there, List.mem_singleton.mpr same, rest⟩
    · exact .inr ⟨argument, host, passed, id, there, later, rest⟩
  · rintro (⟨argument, host, passed, id, there, among, rest⟩ |
      ⟨argument, host, passed, id, there, among, rest⟩)
    · refine ⟨argument, host, passed, id, there, ?_, rest⟩
      exact List.mem_cons.mpr (.inl (List.mem_singleton.mp among))
    · exact ⟨argument, host, passed, id, there, List.mem_cons_of_mem kind among, rest⟩

theorem Passes.congr (same : changed[index]?.map (·.kind) = arguments[index]?.map (·.kind))
    (passes : Passes arguments items kinds index) : Passes changed items kinds index := by
  obtain ⟨argument, host, passed, id, there, rest⟩ := passes
  rw [there, Option.map_some] at same
  obtain ⟨other, found, kind⟩ := Option.map_eq_some_iff.mp same
  rw [← kind] at rest
  exact ⟨other, host, passed, id, found, rest⟩

theorem Passes.bounds (passes : Passes arguments items kinds index) :
    index < arguments.length ∧ index + 1 < items.length := by
  obtain ⟨argument, host, passed, id, there, _, _, given, _⟩ := passes
  exact ⟨(List.getElem?_eq_some_iff.mp there).1, (List.getElem?_eq_some_iff.mp given).1⟩

/-- What is passed for an argument of its type is bound. -/
theorem Passes.boundId?_eq (passes : Passes arguments items kinds index) {argument : Argument}
    (there : arguments[index]? = some argument) {passed : HostKind} {id : Datum}
    (given : items[index + 1]? = some (.object passed id)) :
    boundId? argument.kind (.object passed id) = some id := by
  obtain ⟨other, host, _, _, found, _, expected, again, isA⟩ := passes
  cases there.symm.trans found
  cases given.symm.trans again
  exact boundId?_eq_some_iff.mpr ⟨host, passed, expected, rfl, isA⟩

/-- An argument has one type. -/
theorem Passes.not_image_of_display (display : Passes arguments items [.display] index) :
    ¬Passes arguments items [.image] index := by
  obtain ⟨argument, _, _, _, there, kind, _⟩ := display
  rintro ⟨other, _, _, _, found, otherKind, _⟩
  cases there.symm.trans found
  have same := (List.mem_singleton.mp kind).symm.trans (List.mem_singleton.mp otherKind)
  cases same

theorem Displays.le_one {start : Nat} (displays : Displays arguments items start) : start ≤ 1 := by
  cases displays with
  | missing => exact Nat.zero_le 1
  | passed _ => exact le_refl 1

theorem Displays.passes {start : Nat} (displays : Displays arguments items start)
    (below : index < start) : Passes arguments items [.display] index := by
  cases displays with
  | missing => exact absurd below (Nat.not_lt_zero index)
  | passed display =>
      cases Nat.lt_one_iff.mp below
      exact display

/-- An image that is passed comes after the display, if one is. -/
theorem Displays.eq_of_image {start other : Nat} (displays : Displays arguments items start)
    (most : ∀ length, Displays arguments items length → length ≤ start)
    (others : Displays arguments items other)
    (image : Passes arguments items [.image] other) : other = start := by
  cases displays with
  | missing => exact Nat.le_zero.mp (most other others)
  | passed display =>
      cases others with
      | missing => exact absurd image display.not_image_of_display
      | passed _ => rfl

theorem Leading.bounds (leading : Leading arguments items count) :
    count ≤ 3 ∧ count ≤ arguments.length ∧ (0 < count → count < items.length) := by
  cases leading with
  | display displays =>
      cases displays with
      | missing => exact ⟨by omega, by omega, by omega⟩
      | passed display =>
          have := display.bounds
          exact ⟨by omega, by omega, by omega⟩
  | image displays image =>
      have := displays.le_one
      have := image.bounds
      exact ⟨by omega, by omega, by omega⟩
  | item displays image item =>
      have := displays.le_one
      have := item.bounds
      exact ⟨by omega, by omega, by omega⟩

/-- Whatever is in a beginning that matches is a reference of the type of its argument. -/
theorem Leading.passes (leading : Leading arguments items count) (below : index < count) :
    ∃ kinds, Passes arguments items kinds index := by
  cases leading with
  | display displays => exact ⟨_, displays.passes below⟩
  | image displays image =>
      rcases Nat.lt_succ_iff_lt_or_eq.mp below with earlier | rfl
      · exact ⟨_, displays.passes earlier⟩
      · exact ⟨_, image⟩
  | item displays image item =>
      rcases Nat.lt_succ_iff_lt_or_eq.mp below with earlier | rfl
      · rcases Nat.lt_succ_iff_lt_or_eq.mp earlier with first | rfl
        · exact ⟨_, displays.passes first⟩
        · exact ⟨_, image⟩
      · exact ⟨_, item⟩

theorem Leading.congr
    (same : ∀ index : Nat, changed[index]?.map (·.kind) = arguments[index]?.map (·.kind))
    (leading : Leading arguments items count) : Leading changed items count := by
  have displays {start : Nat} (before : Displays arguments items start) :
      Displays changed items start := by
    cases before with
    | missing => exact .missing
    | passed display => exact .passed (display.congr (same _))
  cases leading with
  | display before => exact .display (displays before)
  | image before image => exact .image (displays before) (image.congr (same _))
  | item before image item =>
      exact .item (displays before) (image.congr (same _)) (item.congr (same _))

section

variable {start : Nat} (displays : Displays arguments items start)
  (most : ∀ length, Displays arguments items length → length ≤ start)

include displays most

theorem isGreatest_of_no_image (refused : ¬Passes arguments items [.image] start) :
    IsGreatest {length | Leading arguments items length} start := by
  refine ⟨.display displays, fun other leading => ?_⟩
  cases leading with
  | display others => exact most other others
  | image others image =>
      cases displays.eq_of_image most others image
      exact absurd image refused
  | item others image _ =>
      cases displays.eq_of_image most others image
      exact absurd image refused

theorem isGreatest_of_image (image : Passes arguments items [.image] start)
    (refused : ¬Passes arguments items itemKinds (start + 1)) :
    IsGreatest {length | Leading arguments items length} (start + 1) := by
  refine ⟨.image displays image, fun other leading => ?_⟩
  cases leading with
  | display others => exact Nat.le_succ_of_le (most other others)
  | image others _ => exact Nat.succ_le_succ (most _ others)
  | item others otherImage item =>
      cases displays.eq_of_image most others otherImage
      exact absurd item refused

theorem isGreatest_of_item (image : Passes arguments items [.image] start)
    (item : Passes arguments items itemKinds (start + 1)) :
    IsGreatest {length | Leading arguments items length} (start + 2) := by
  refine ⟨.item displays image item, fun other leading => ?_⟩
  cases leading with
  | display others =>
      have := most other others
      omega
  | image others _ =>
      have := most _ others
      omega
  | item others _ _ =>
      have := most _ others
      omega

end

/-! Arguments that took what was passed for them. -/

theorem Binds.refl (items : List Datum) (arguments : List Argument) :
    Binds 0 items arguments arguments :=
  ⟨rfl, fun _ _ _ below => absurd below (Nat.not_lt_zero _), fun _ _ => rfl⟩

theorem Binds.sameKinds (binds : Binds count items arguments changed) (index : Nat) :
    changed[index]?.map (·.kind) = arguments[index]?.map (·.kind) := by
  by_cases below : index < count
  · cases there : arguments[index]? with
    | none =>
        have beyond : changed.length ≤ index := by
          rw [binds.length]
          exact List.getElem?_eq_none_iff.mp there
        rw [List.getElem?_eq_none_iff.mpr beyond]
    | some argument =>
        obtain ⟨passed, id, _, held⟩ := binds.bound index argument there below
        rw [held]
        rfl
  · rw [binds.others index (by omega)]

/-- One argument more takes what was passed for it. -/
theorem Binds.step (binds : Binds count items arguments between) {argument : Argument}
    (there : between[count]? = some argument) {passed : HostKind} {id : Datum}
    (given : items[count + 1]? = some (.object passed id)) :
    Binds (count + 1) items arguments
      (between.set count { argument with value := .itemId id }) := by
  have inside : count < between.length := (List.getElem?_eq_some_iff.mp there).1
  refine ⟨by rw [List.length_set, binds.length], fun index other found below => ?_,
    fun index beyond => ?_⟩
  · by_cases last : index = count
    · subst last
      rw [binds.others index (le_refl _), found] at there
      cases there
      exact ⟨passed, id, given, List.getElem?_set_self inside⟩
    · rw [List.getElem?_set_ne (by omega)]
      exact binds.bound index other found (by omega)
  · rw [List.getElem?_set_ne (by omega)]
    exact binds.others index (by omega)

/-- Arguments that hold what is passed for them stay as they are. -/
theorem Binds.eq_self (binds : Binds count items arguments changed)
    (already : ∀ (index : Nat) (argument : Argument) (passed : HostKind) (id : Datum),
      index < count → arguments[index]? = some argument →
      items[index + 1]? = some (.object passed id) → argument.value = .itemId id) :
    changed = arguments := by
  refine List.ext_getElem? fun index => ?_
  by_cases below : index < count
  · cases there : arguments[index]? with
    | none =>
        have beyond : changed.length ≤ index := by
          rw [binds.length]
          exact List.getElem?_eq_none_iff.mp there
        exact List.getElem?_eq_none_iff.mpr beyond
    | some argument =>
        obtain ⟨passed, id, given, held⟩ := binds.bound index argument there below
        rw [held, ← already index argument passed id below there given]
  · exact binds.others index (by omega)

/-- Taking the same again changes nothing. -/
theorem Binds.again (binds : Binds count items arguments between)
    (more : Binds count items between changed) : changed = between := by
  refine more.eq_self fun index held passed id below there given => ?_
  have inside : index < arguments.length := by
    rw [← binds.length]
    exact (List.getElem?_eq_some_iff.mp there).1
  obtain ⟨_, _, first, bound⟩ := binds.bound index _ (List.getElem?_eq_getElem inside) below
  cases given.symm.trans first
  cases there.symm.trans bound
  rfl

/-- What holds of arguments whatever number they take holds of those that took one. -/
theorem Binds.forall_mem {motive : Argument → Prop} (binds : Binds count items arguments changed)
    (each : ∀ argument ∈ arguments, motive argument)
    (taken : ∀ argument host id, .object host id ∈ items → motive argument →
      motive { argument with value := .itemId id }) :
    ∀ argument ∈ changed, motive argument := by
  intro argument member
  obtain ⟨index, there⟩ := List.mem_iff_getElem?.mp member
  have inside : index < changed.length := (List.getElem?_eq_some_iff.mp there).1
  by_cases below : index < count
  · rw [binds.length] at inside
    obtain ⟨_, id, passed, held⟩ := binds.bound index _ (List.getElem?_eq_getElem inside) below
    cases there.symm.trans held
    exact taken _ _ id (List.mem_of_getElem? passed) (each _ (List.getElem_mem inside))
  · rw [binds.others index (by omega)] at there
    exact each argument (List.mem_of_getElem? there)

end

/-! Binding, one argument after the other. -/

/-- An action that lets the argument at an index take what was passed for it, if it is of one of
some types and was passed a reference of its type, and tells whether it did. -/
def Tries (items : List Datum) (kinds : List ArgKind) (index : Nat) (act : ScriptAct Bool) : Prop :=
  ∀ profile held arguments,
    (¬Passes arguments items kinds index ∧
      act (live ⟨profile, arguments.map some, held⟩) =
        .ok false (live ⟨profile, arguments.map some, held⟩)) ∨
    ∃ argument passed id, Passes arguments items kinds index ∧
      arguments[index]? = some argument ∧ items[index + 1]? = some (.object passed id) ∧
      act (live ⟨profile, arguments.map some, held⟩) =
        .ok true (live ⟨profile,
          (arguments.set index { argument with value := .itemId id }).map some, held⟩)

/-- An action that does so in a script whose first slots are filled, whatever is in the others, as
long as none of those is looked at. -/
def Attempts (rest : List (Option Argument)) (items : List Datum) (kinds : List ArgKind)
    (index : Nat) (act : ScriptAct Bool) : Prop :=
  ∀ profile held (arguments : List Argument),
    rest = [] ∨ index < arguments.length ∨ items.length ≤ index + 1 →
    (¬Passes arguments items kinds index ∧
      act (live ⟨profile, arguments.map some ++ rest, held⟩) =
        .ok false (live ⟨profile, arguments.map some ++ rest, held⟩)) ∨
    ∃ argument passed id, Passes arguments items kinds index ∧
      arguments[index]? = some argument ∧ items[index + 1]? = some (.object passed id) ∧
      act (live ⟨profile, arguments.map some ++ rest, held⟩) =
        .ok true (live ⟨profile,
          (arguments.set index { argument with value := .itemId id }).map some ++ rest, held⟩)

theorem tries_iff_attempts {items : List Datum} {kinds : List ArgKind} {index : Nat}
    {act : ScriptAct Bool} : Tries items kinds index act ↔ Attempts [] items kinds index act := by
  simp only [Tries, Attempts, List.append_nil, true_or, true_imp_iff]

section

variable {invocation : Invocation} {items : List Datum} {arguments between : List Argument}
  {rest : List (Option Argument)} {index count : Nat} {kinds : List ArgKind}

/-- Where there is no slot, or nothing is passed for it, nothing is bound. -/
theorem bindArgument_missing (listed : invocation.itemsByPosition 1 = .ok items) (kind : ArgKind)
    {slots : List (Option Argument)} (missing : slots.length ≤ index ∨ items.length ≤ index + 1)
    (profile : Profile) (held : Bool) :
    bindArgument invocation kind index (live ⟨profile, slots, held⟩) =
      .ok false (live ⟨profile, slots, held⟩) := by
  have sized : (live ⟨profile, slots, held⟩).size = slots.length := rfl
  unfold bindArgument
  simp only [Act.get_bind, sized]
  by_cases beyond : slots.length ≤ index
  · rw [if_pos beyond]
    rfl
  · have few : items.length ≤ index + 1 := missing.resolve_left beyond
    rw [if_neg beyond, (itemsByPosition_ok listed).1, Act.ofExcept_ok_bind, if_pos few]
    rfl

/-- Where something is passed for a slot, the slot is looked at. It must have been filled; the value
is bound if the argument in it is of the type asked for and the value is a reference of that
type. -/
theorem bindArgument_slot (listed : invocation.itemsByPosition 1 = .ok items) (kind : ArgKind)
    (small : (index : Int) < indexLimit) {slots : List (Option Argument)} {slot : Option Argument}
    (there : slots[index]? = some slot) {value : Datum} (given : items[index + 1]? = some value)
    (profile : Profile) (held : Bool) :
    bindArgument invocation kind index (live ⟨profile, slots, held⟩) =
      match slot with
      | none => .error (.undefinedArgument profile.name (.int index)) (live ⟨profile, slots, held⟩)
      | some argument =>
          if argument.kind = kind then
            match boundId? kind value with
            | none => .ok false (live ⟨profile, slots, held⟩)
            | some id => .ok true (live ⟨profile,
                slots.set index (some { argument with value := .itemId id }), held⟩)
          else .ok false (live ⟨profile, slots, held⟩) := by
  have sized : (live ⟨profile, slots, held⟩).size = slots.length := rfl
  have inside : ¬slots.length ≤ index := not_le.mpr (List.getElem?_eq_some_iff.mp there).1
  have most : ¬items.length ≤ index + 1 := not_le.mpr (List.getElem?_eq_some_iff.mp given).1
  obtain ⟨measured, positions⟩ := itemsByPosition_ok listed
  have item : invocation.itemAt (index + 1) = .ok value :=
    (itemAt_eq_ok_iff _ _ _).mpr ⟨items, positions (index + 1), given⟩
  have found := argumentAt_of_slot ⟨profile, slots, held⟩ there small
  unfold bindArgument
  simp only [Act.get_bind]
  rw [if_neg (sized.symm ▸ inside), measured, Act.ofExcept_ok_bind, if_neg most]
  cases slot with
  | none => exact Act.bind_of_error _ found
  | some argument =>
      rw [Act.bind_of_ok _ found]
      dsimp only
      by_cases same : argument.kind = kind
      · rw [if_neg (not_not.mpr same), if_pos same, item, Act.ofExcept_ok_bind]
        cases bound : boundId? kind value with
        | none => rfl
        | some id =>
            have assigned := Argument.assign_itemId id (same ▸ (boundId?_eq_some bound).2)
            dsimp only
            rw [assigned, Act.ofExcept_ok_bind]
            rfl
      · rw [if_pos same, if_neg same]
        rfl

theorem attempts_bindArgument (listed : invocation.itemsByPosition 1 = .ok items) (kind : ArgKind)
    (small : (index : Int) < indexLimit) (rest : List (Option Argument)) :
    Attempts rest items [kind] index (bindArgument invocation kind index) := by
  intro profile held arguments unseen
  have total : (arguments.map some ++ rest).length = arguments.length + rest.length := by
    rw [List.length_append, List.length_map]
  by_cases missing : (arguments.map some ++ rest).length ≤ index ∨ items.length ≤ index + 1
  · refine .inl ⟨fun passes => ?_, bindArgument_missing listed kind missing profile held⟩
    have := passes.bounds
    omega
  have inside : index < arguments.length := by
    rcases unseen with none | inside | few
    · subst none
      rw [List.length_nil] at total
      omega
    · exact inside
    · exact absurd (.inr few) missing
  have there : arguments[index]? = some arguments[index] := List.getElem?_eq_getElem inside
  have given : items[index + 1]? = some items[index + 1] := List.getElem?_eq_getElem (by omega)
  have slot : (arguments.map some ++ rest)[index]? = some (some arguments[index]) := by
    rw [List.getElem?_append_left (by simpa using inside), List.getElem?_map, there]
    rfl
  rw [bindArgument_slot listed kind small slot given]
  dsimp only
  by_cases same : arguments[index].kind = kind
  · rw [if_pos same]
    cases bound : boundId? kind items[index + 1] with
    | none =>
        refine .inl ⟨fun passes => ?_, rfl⟩
        obtain ⟨_, value, id, _, _, found, some⟩ := passes_single_iff.mp passes
        cases given.symm.trans found
        cases bound.symm.trans some
    | some id =>
        obtain ⟨_, passed, _, object, _⟩ := boundId?_eq_some_iff.mp bound
        refine .inr ⟨arguments[index], passed, id, ?_, there, object ▸ given, ?_⟩
        · exact passes_single_iff.mpr ⟨_, _, id, there, same, given, bound⟩
        · dsimp only
          rw [List.set_append_left _ _ (by simpa using inside), List.map_set]
  · rw [if_neg same]
    refine .inl ⟨fun passes => ?_, rfl⟩
    obtain ⟨argument, _, _, found, kind, _⟩ := passes_single_iff.mp passes
    cases there.symm.trans found
    exact same kind

theorem attempts_bindFirst (listed : invocation.itemsByPosition 1 = .ok items)
    (small : (index : Int) < indexLimit) (kinds : List ArgKind) (rest : List (Option Argument)) :
    Attempts rest items kinds index (bindFirst invocation index kinds) := by
  intro profile held arguments unseen
  induction kinds with
  | nil =>
      refine .inl ⟨?_, rfl⟩
      rintro ⟨_, _, _, _, _, among, _⟩
      exact absurd among List.not_mem_nil
  | cons kind kinds ih =>
      rcases attempts_bindArgument listed kind small rest profile held arguments unseen with
        ⟨refused, ran⟩ | ⟨argument, passed, id, passes, there, given, ran⟩
      · -- Nothing was changed, so the other types are tried on the same arguments.
        have others : bindFirst invocation index (kind :: kinds)
            (live ⟨profile, arguments.map some ++ rest, held⟩) =
              bindFirst invocation index kinds
                (live ⟨profile, arguments.map some ++ rest, held⟩) :=
          Act.bind_of_ok _ ran
        rw [others, passes_cons_iff, or_iff_right refused]
        exact ih
      · refine .inr ⟨argument, passed, id, passes_cons_iff.mpr (.inl passes), there, given, ?_⟩
        exact Act.bind_of_ok _ ran

theorem tries_bindArgument (listed : invocation.itemsByPosition 1 = .ok items) (kind : ArgKind)
    (small : (index : Int) < indexLimit) :
    Tries items [kind] index (bindArgument invocation kind index) :=
  tries_iff_attempts.mpr (attempts_bindArgument listed kind small [])

theorem tries_bindFirst (listed : invocation.itemsByPosition 1 = .ok items)
    (small : (index : Int) < indexLimit) (kinds : List ArgKind) :
    Tries items kinds index (bindFirst invocation index kinds) :=
  tries_iff_attempts.mpr (attempts_bindFirst listed small kinds [])

/-- The next argument after some that took theirs takes what was passed for it, or it does not match
and nothing is changed. -/
theorem Attempts.next {act : ScriptAct Bool} (attempts : Attempts rest items kinds count act)
    (binds : Binds count items arguments between)
    (unseen : rest = [] ∨ count < arguments.length ∨ items.length ≤ count + 1)
    (profile : Profile) (held : Bool) :
    (¬Passes arguments items kinds count ∧
      act (live ⟨profile, between.map some ++ rest, held⟩) =
        .ok false (live ⟨profile, between.map some ++ rest, held⟩)) ∨
    ∃ next, Passes arguments items kinds count ∧ Binds (count + 1) items arguments next ∧
      act (live ⟨profile, between.map some ++ rest, held⟩) =
        .ok true (live ⟨profile, next.map some ++ rest, held⟩) := by
  rw [← binds.length] at unseen
  rcases attempts profile held between unseen with
    ⟨refused, ran⟩ | ⟨argument, passed, id, passes, there, given, ran⟩
  · exact .inl ⟨fun passes => refused (passes.congr (binds.sameKinds count)), ran⟩
  · exact .inr ⟨_, passes.congr (binds.sameKinds count).symm, binds.step there given, ran⟩

theorem Tries.next {act : ScriptAct Bool} (tries : Tries items kinds count act)
    (binds : Binds count items arguments between) (profile : Profile) (held : Bool) :
    (¬Passes arguments items kinds count ∧
      act (live ⟨profile, between.map some, held⟩) =
        .ok false (live ⟨profile, between.map some, held⟩)) ∨
    ∃ next, Passes arguments items kinds count ∧ Binds (count + 1) items arguments next ∧
      act (live ⟨profile, between.map some, held⟩) =
        .ok true (live ⟨profile, next.map some, held⟩) := by
  have all := (tries_iff_attempts.mp tries).next binds (.inl rfl) profile held
  simpa only [List.append_nil] using all

end

/-! The whole. -/

section

variable {invocation : Invocation} {items : List Datum} {profile : Profile}

/-- Binding what may come first, a display, gives the length of what matches it. -/
theorem exists_displays (listed : invocation.itemsByPosition 1 = .ok items)
    (arguments : List Argument) (rest : List (Option Argument))
    (unseen : rest = [] ∨ 0 < arguments.length ∨ items.length ≤ 1) (profile : Profile)
    (held : Bool) :
    ∃ bound between, Displays arguments items (if bound then 1 else 0) ∧
      (∀ other, Displays arguments items other → other ≤ if bound then 1 else 0) ∧
      Binds (if bound then 1 else 0) items arguments between ∧
      bindArgument invocation .display 0 (live ⟨profile, arguments.map some ++ rest, held⟩) =
        .ok bound (live ⟨profile, between.map some ++ rest, held⟩) := by
  have attempts : Attempts rest items [.display] 0 (bindArgument invocation .display 0) :=
    attempts_bindArgument listed .display (by decide) rest
  rcases attempts.next (Binds.refl items arguments) unseen profile held with
    ⟨refused, ran⟩ | ⟨next, passes, binds, ran⟩
  · refine ⟨false, arguments, .missing, fun other displays => ?_, Binds.refl _ _, ran⟩
    cases displays with
    | missing => exact le_refl 0
    | passed display => exact absurd display refused
  · exact ⟨true, next, .passed passes, fun other displays => displays.le_one, binds, ran⟩

/-- Binding, as it is done while the script is held. -/
def bindHeld (invocation : Invocation) : ScriptAct Nat := do
  let displays := if ← bindArgument invocation .display 0 then 1 else 0
  if ← bindArgument invocation .image displays then
    if ← bindFirst invocation (displays + 1) itemKinds then return displays + 2
    else return displays + 1
  else return displays

theorem bindHeld_greatest (listed : invocation.itemsByPosition 1 = .ok items)
    (arguments : List Argument) (profile : Profile) (held : Bool) :
    ∃ count changed,
      bindHeld invocation (live ⟨profile, arguments.map some, held⟩) =
        .ok count (live ⟨profile, changed.map some, held⟩) ∧
      IsGreatest {length | Leading arguments items length} count ∧
      Binds count items arguments changed := by
  obtain ⟨shown, between, displays, most, binds, ran⟩ :=
    exists_displays listed arguments [] (.inl rfl) profile held
  rw [List.append_nil, List.append_nil] at ran
  have limit : (2 : Int) < indexLimit := by decide
  have few := displays.le_one
  unfold bindHeld
  rw [Act.bind_of_ok _ ran]
  -- From here on it does not matter whether a display came first, only where the image has to be.
  generalize (if shown = true then 1 else 0) = start at displays most binds few ⊢
  have image : Tries items [.image] start (bindArgument invocation .image start) :=
    tries_bindArgument listed .image (by omega)
  rcases image.next binds profile held with ⟨refused, ran⟩ | ⟨next, passes, binds, ran⟩
  · refine ⟨start, between, Act.bind_of_ok _ ran, ?_, binds⟩
    exact isGreatest_of_no_image displays most refused
  · have item : Tries items itemKinds (start + 1) (bindFirst invocation (start + 1) itemKinds) :=
      tries_bindFirst listed (by omega) itemKinds
    rcases item.next binds profile held with ⟨refused, ranItem⟩ | ⟨last, more, binds, ranItem⟩
    · refine ⟨start + 1, next, (Act.bind_of_ok _ ran).trans (Act.bind_of_ok _ ranItem), ?_, binds⟩
      exact isGreatest_of_image displays most passes refused
    · refine ⟨start + 2, last, (Act.bind_of_ok _ ran).trans (Act.bind_of_ok _ ranItem), ?_, binds⟩
      exact isGreatest_of_item displays most passes more

/-- What is bound is the longest beginning that matches. -/
theorem bindStandard_greatest (named : profile.name.isNull = false)
    (listed : invocation.itemsByPosition 1 = .ok items) (arguments : List Argument) :
    ∃ count changed,
      bindStandard invocation (ofArguments profile arguments) =
        .ok count (ofArguments profile changed) ∧
      IsGreatest {length | Leading arguments items length} count ∧
      Binds count items arguments changed := by
  obtain ⟨count, changed, ran, greatest, binds⟩ := bindHeld_greatest listed arguments profile true
  refine ⟨count, changed, ?_, greatest, binds⟩
  have there : (!invocation.isNull) = true := by
    cases invocation <;> first | rfl | cases listed
  have bound : exclusively (bindHeld invocation) (ofArguments profile arguments) =
      .ok count (ofArguments profile changed) := exclusively_ok rfl rfl ran
  have told : name (ofArguments profile changed) =
      .ok profile.name (ofArguments profile changed) := by
    refine Act.bind_of_ok _ (Act.require_of_true ?_ _ _)
    change (!profile.name.isNull) = true
    rw [named]
    rfl
  refine (Act.bind_of_ok _ (Act.require_of_true there _ _)).trans ?_
  exact (Act.bind_of_ok _ bound).trans (Act.bind_of_ok _ told)

end

end Script

end

namespace Script

/-- Arguments for a display, an image and a drawable, whose values refer to nothing yet. -/
def unbound : List Argument :=
  [.display, .image, .drawable].map fun kind =>
    ⟨kind, .text "", .itemId (.int (-1)), .itemId (.int (-1))⟩

/-- A run mode with a display, an image and a layer of it. -/
def layered : List Datum :=
  [.int 0, .object .display (.int 42), .object .image (.int 7), .object .layer (.int 3)]

end Script

end ScriptCatalog
