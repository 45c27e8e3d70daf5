import ScriptCatalog.Proofs.Catalog.Reachable
import ScriptCatalog.Proofs.Command.ReadBack
import ScriptCatalog.Proofs.Script.Declaration
import ScriptCatalog.Proofs.Script.Leading
import ScriptCatalog.Proofs.Script.Storing

/-! What can be done with a script that was registered. Its commands can be written, its procedure
built, its values bound and reset, in any order and any number of times, and after all that it can
still be added to a table or destroyed. -/

namespace ScriptCatalog

section

variable [Platform]

namespace Payload

/-- Whether a payload has a token wherever the decimal places can be counted. -/
def IsWritten (payload : Payload) : Prop :=
  ∀ (precision : Precision) (places : Nat), precision.count = .ok places →
    ∃ written, payload.token precision = .ok (.text written)

theorem isWritten_itemId {id : Datum} (shown : id.unshown? = none) : (itemId id).IsWritten := by
  intro precision places _
  have named : ∃ written, idToken id = .ok written := by
    unfold idToken
    split
    · exact ⟨_, idToken_null⟩
    · exact ⟨id.display, by rw [Datum.written, shown]⟩
  obtain ⟨written, named⟩ := named
  refine ⟨written, ?_⟩
  rw [token, named]
  rfl

theorem isWritten_rawText {words : Datum} (typed : words.hasType [.text, .null] = true) :
    (rawText words).IsWritten := by
  intro precision places _
  rcases words.optionalText_cases typed with rfl | ⟨words, rfl⟩
  · exact ⟨quote none, rfl⟩
  · by_cases empty : words.length = 0
    · refine ⟨quote none, ?_⟩
      change (if words.length = 0 then _ else _) = _
      rw [if_pos empty]
      rfl
    · refine ⟨words, ?_⟩
      change (if words.length = 0 then _ else _) = _
      rw [if_neg empty]
      rfl

theorem isWritten_of_wellTyped {payload : Payload} (typed : payload.wellTyped = true)
    (short : payload.hasFewDigits = true) : payload.IsWritten := by
  by_cases raw : payload.kind = .rawText
  · -- Raw text need not read as one token, but it is always written.
    cases payload <;> cases raw
    exact isWritten_rawText typed
  · intro precision places counted
    have readable : payload.rawReadable = true := by
      cases payload with
      | rawText words => exact absurd rfl raw
      | _ => rfl
    obtain ⟨written, _, rendered, _⟩ :=
      token_reads precision payload typed readable (fun _ => ⟨places, counted⟩) short
    exact ⟨written, rendered⟩

end Payload

/-- An argument whose default is copied as it is, and whose default and value are both written if
any writing is to be done. -/
structure Argument.Serves (types : EnumTypes) (writing : Prop) (argument : Argument) : Prop where
  copied : argument.default.copy types = .ok argument.default
  defaultWritten : writing → argument.default.IsWritten
  valueWritten : writing → argument.value.IsWritten

variable {types : EnumTypes} {writing : Prop}

theorem Registration.Declares.serves {declaration : Datum} {argument : Argument}
    (declares : Declares types declaration argument)
    (short : writing → argument.default.hasFewDigits = true) : argument.Serves types writing := by
  cases declares with
  | intro parts typed accepted =>
      have written (asked : writing) :=
        Payload.isWritten_of_wellTyped (Payload.wellTyped_of_accepts accepted) (short asked)
      exact ⟨Payload.copy_of_accepts accepted, written, written⟩

namespace Argument

variable {argument : Argument}

/-- An argument with its default restored, unless it is an item that keeps its value. -/
def restored (resetIds : Bool) (argument : Argument) : Argument :=
  if argument.kind.isItem && !resetIds then argument
  else { argument with value := argument.default }

theorem reset_of_serves (serves : argument.Serves types writing) (resetIds : Bool) :
    reset types resetIds argument = .ok () (argument.restored resetIds) := by
  rw [reset, restored, serves.copied]
  split <;> rfl

theorem Serves.restored (serves : argument.Serves types writing) (resetIds : Bool) :
    (argument.restored resetIds).Serves types writing := by
  unfold Argument.restored
  split
  · exact serves
  · exact ⟨serves.copied, serves.defaultWritten, serves.defaultWritten⟩

theorem Serves.withItemId (serves : argument.Serves types writing) {id : Datum}
    (shown : writing → id.unshown? = none) :
    Serves types writing { argument with value := .itemId id } :=
  ⟨serves.copied, serves.defaultWritten, fun asked => Payload.isWritten_itemId (shown asked)⟩

end Argument

namespace Script

/-- A script in use with the given profile, all of whose arguments serve. -/
inductive Ready (types : EnumTypes) (writing : Prop) (profile : Profile) (held : Bool) :
    Script → Prop
  | intro {arguments : List Argument}
      (serve : ∀ argument ∈ arguments, argument.Serves types writing) :
      Ready types writing profile held (live ⟨profile, arguments.map some, held⟩)

/-- An action that succeeds with every script that is ready, and leaves it ready. -/
def StaysReady {α : Type} (types : EnumTypes) (writing : Prop) (profile : Profile) (held : Bool)
    (act : ScriptAct α) : Prop :=
  ∀ script, Ready types writing profile held script →
    ∃ value next, act script = .ok value next ∧ Ready types writing profile held next

variable {profile : Profile} {held : Bool} {α β : Type}

theorem staysReady_pure (value : α) : StaysReady types writing profile held (pure value) := by
  intro script ready
  exact ⟨value, script, rfl, ready⟩

theorem StaysReady.bind {act : ScriptAct α} {next : α → ScriptAct β}
    (first : StaysReady types writing profile held act)
    (others : ∀ value, StaysReady types writing profile held (next value)) :
    StaysReady types writing profile held (act >>= next) := by
  intro script ready
  obtain ⟨value, between, ran, readyBetween⟩ := first script ready
  obtain ⟨result, final, finished, readyFinal⟩ := others value between readyBetween
  exact ⟨result, final, (Act.bind_of_ok next ran).trans finished, readyFinal⟩

theorem staysReady_exclusively {act : ScriptAct α}
    (inside : StaysReady types writing profile true act) :
    StaysReady types writing profile false (exclusively act) := by
  intro script ready
  cases ready with
  | @intro arguments serve =>
      obtain ⟨value, next, ran, readyNext⟩ := inside _ (.intro serve)
      cases readyNext with
      | @intro changed serveNext =>
          have given : exclusively act (live ⟨profile, arguments.map some, false⟩) =
              .ok value (live ⟨profile, changed.map some, false⟩) := exclusively_ok rfl rfl ran
          exact ⟨value, _, given, .intro serveNext⟩

theorem staysReady_arguments : StaysReady types writing profile held arguments := by
  intro script ready
  cases ready with
  | @intro arguments serve =>
      exact ⟨arguments, _, arguments_of_slots _ arguments rfl, .intro serve⟩

/-! Commands and procedures. -/

theorem tokens_written {precision : Precision} {places : Nat}
    (counted : precision.count = .ok places) (asked : writing) {arguments : List Argument}
    (serve : ∀ argument ∈ arguments, argument.Serves types writing) :
    ∃ words : List String, storedTokens precision arguments = .ok (words.map .text) := by
  induction arguments with
  | nil => exact ⟨[], rfl⟩
  | cons argument arguments ih =>
      obtain ⟨word, first⟩ := (serve argument List.mem_cons_self).valueWritten asked _ _ counted
      obtain ⟨words, rest⟩ := ih fun other member => serve other (List.mem_cons_of_mem _ member)
      refine ⟨word :: words, ?_⟩
      rw [storedTokens, List.mapM_cons, first, ← storedTokens, rest]
      rfl

theorem staysReady_command {precision : Precision} {places : Nat} {name : String}
    (counted : precision.count = .ok places) (asked : writing)
    (named : profile.name = .text name) :
    StaysReady types writing profile false (command precision) := by
  intro script ready
  cases ready with
  | @intro arguments serve =>
      obtain ⟨words, rendered⟩ := tokens_written counted asked serve
      exact ⟨_, _, command_ofArguments precision profile arguments name words named rendered,
        .intro serve⟩

theorem staysReady_procedure (texts : profile.AllTexts) (kind : ProcedureKind) :
    StaysReady types writing profile false (procedure kind) := by
  intro script ready
  cases ready with
  | @intro arguments serve =>
      exact ⟨_, _, procedure_ofArguments kind profile arguments texts, .intro serve⟩

/-! Resetting and binding values. -/

theorem staysReady_forArguments {act : Nat → Act Argument Unit} (change : Argument → Argument)
    (acts : ∀ index argument, argument.Serves types writing →
      act index argument = .ok () (change argument))
    (serves : ∀ argument : Argument, argument.Serves types writing →
      (change argument).Serves types writing) :
    StaysReady types writing profile held (forArguments act) := by
  intro script ready
  cases ready with
  | @intro arguments serve =>
      have ran := forArguments_ok act profile held arguments (arguments.map change)
        (List.length_map change) fun index argument next found made => by
          rw [List.getElem?_map, found] at made
          cases made
          exact acts index argument (serve argument (List.mem_of_getElem? found))
      refine ⟨(), _, ran, .intro fun changed member => ?_⟩
      obtain ⟨argument, earlier, rfl⟩ := List.mem_map.mp member
      exact serves argument (serve argument earlier)

theorem staysReady_reset (resetIds : Bool) :
    StaysReady types writing profile false (reset types resetIds) := by
  refine staysReady_exclusively (staysReady_arguments.bind fun _ => ?_)
  exact staysReady_forArguments (Argument.restored resetIds)
    (fun _ _ serves => Argument.reset_of_serves serves resetIds)
    fun _ serves => serves.restored resetIds

theorem staysReady_bindStandard {invocation : Invocation} {items : List Datum} {name : String}
    (named : profile.name = .text name) (listed : invocation.sequence? = some items)
    (shown : writing → ∀ host id, Datum.object host id ∈ items → id.unshown? = none) :
    StaysReady types writing profile false (bindStandard invocation) := by
  intro script ready
  cases ready with
  | @intro arguments serve =>
      have known : profile.name.isNull = false := by
        rw [named]
        rfl
      obtain ⟨count, changed, ran, _, binds⟩ :=
        bindStandard_greatest known (itemsByPosition_of_sequence listed 1) arguments
      refine ⟨count, _, ran, .intro (binds.forall_mem serve ?_)⟩
      exact fun _ host id passed serves => serves.withItemId fun asked => shown asked host id passed

theorem destroy_of_ready {script : Script} (ready : Ready types writing profile false script) :
    destroy script = .ok () destroyed := by
  cases ready with
  | intro serve => rfl

end Script

/-! Uses of a script one after the other. -/

/-- What a script is there for: to write its command with some decimal places, to build its
procedure, to restore its defaults and to bind the leading values of an invocation. -/
inductive ScriptUse where
  | command (places : Int)
  | procedure (kind : ProcedureKind)
  | reset (resetIds : Bool)
  | bindStandard (invocation : Invocation)

namespace ScriptUse

/-- Decimal places within the range of settings, and an invocation that is a sequence. If commands
are among the uses, the items that are passed in must be such that they can be written out. -/
def Proper (writing : Prop) : ScriptUse → Prop
  | command places => writing ∧ 1 ≤ places ∧ places ≤ 17
  | bindStandard invocation => ∃ items, invocation.sequence? = some items ∧
      (writing → ∀ host id, Datum.object host id ∈ items → id.unshown? = none)
  | procedure _ | reset _ => True

def act (types : EnumTypes) : ScriptUse → ScriptAct Unit
  | command places => do let _ ← Script.command (.places places)
  | procedure kind => do let _ ← Script.procedure kind
  | reset resetIds => Script.reset types resetIds
  | bindStandard invocation => do let _ ← Script.bindStandard invocation

variable {profile : Profile}

theorem staysReady_act (texts : profile.AllTexts) {use : ScriptUse} (proper : use.Proper writing) :
    Script.StaysReady types writing profile false (use.act types) := by
  obtain ⟨name, named⟩ := texts.name
  cases use with
  | command places =>
      obtain ⟨asked, few, many⟩ := proper
      have least : leastPlaces ≤ places := le_trans (by decide) few
      have most : places ≤ mostPlaces := le_trans many (by decide)
      refine Script.StaysReady.bind ?_ fun _ => Script.staysReady_pure ()
      exact Script.staysReady_command (count_inRange places least most) asked named
  | procedure kind =>
      refine Script.StaysReady.bind ?_ fun _ => Script.staysReady_pure ()
      exact Script.staysReady_procedure texts kind
  | reset resetIds => exact Script.staysReady_reset resetIds
  | bindStandard invocation =>
      obtain ⟨items, listed, shown⟩ := proper
      refine Script.StaysReady.bind ?_ fun _ => Script.staysReady_pure ()
      exact Script.staysReady_bindStandard named listed shown

/-- Uses one after the other. -/
def run (types : EnumTypes) (uses : List ScriptUse) : ScriptAct Unit := uses.forM (act types)

theorem staysReady_run (texts : profile.AllTexts) {uses : List ScriptUse}
    (proper : ∀ use ∈ uses, use.Proper writing) :
    Script.StaysReady types writing profile false (run types uses) := by
  induction uses with
  | nil => exact Script.staysReady_pure ()
  | cons use uses ih =>
      refine (staysReady_act texts (proper use List.mem_cons_self)).bind fun _ => ?_
      exact ih fun other member => proper other (List.mem_cons_of_mem _ member)

end ScriptUse

theorem Catalog.add_of_ready {profile : Profile} {script : Script} (texts : profile.AllTexts)
    (ready : Script.Ready types writing profile false script) (kind : ProcedureKind) :
    ∃ next, Catalog.add 0 (Catalog.start kind [script]) = .ok () next ∧
      next.table.entries.lookup profile.name = some 0 := by
  cases ready with
  | @intro arguments serve =>
      have inStep : Catalog.InStep (fun _ => True) False
          (Catalog.start kind [Script.ofArguments profile arguments]) [] [] :=
        Catalog.inStep_start kind _
      exact inStep.serves.adds 0 profile arguments rfl texts

namespace Registration

/-- Whatever registers, works. A script that was registered has an argument for each declaration in
order, of the declared type and label, with the declared default as its value in the form of its
type. Its procedure, resets and bindings succeed, in any order and any number of times, and so does
adding it to an empty table or destroying it after that. Its commands are among them if no integer
that they are written with is too long. -/
theorem registered_script_serves {registration : Registration} {journal after : Journal}
    {script : Script} (registered : registration.register types journal = .ok script after) :
    ∃ profile declarations arguments, registration.declarations.items? = some declarations ∧
      script = .ofArguments profile arguments ∧
      List.Forall₂ (Declares types) declarations arguments ∧
      (∀ argument ∈ arguments, argument.value = argument.default ∧
        argument.value.kind = argument.kind.payloadKind) ∧
      ∀ (writing : Prop) (uses : List ScriptUse),
        (writing → ∀ argument ∈ arguments, argument.default.hasFewDigits = true) →
        (∀ use ∈ uses, use.Proper writing) →
          ∃ used, ScriptUse.run types uses script = .ok () used ∧
            Script.destroy used = .ok () .destroyed ∧
            ∀ kind, ∃ next, Catalog.add 0 (Catalog.start kind [used]) = .ok () next ∧
              next.table.entries.lookup profile.name = some 0 := by
  obtain ⟨texts, items, arguments, _, _, listed, rfl, declared⟩ :=
    declared_of_script (register_eq_ok registered)
  refine ⟨texts.profile, items, arguments, listed, rfl, declared, ?_,
    fun writing uses short proper => ?_⟩
  · intro argument member
    obtain ⟨_, _, declares⟩ := exists_mem_of_forall₂ declared member
    cases declares with
    | intro parts typed accepted => exact ⟨rfl, Payload.kind_of_accepts accepted⟩
  · have ready : Script.Ready types writing texts.profile false
        (.ofArguments texts.profile arguments) := by
      refine .intro fun argument member => ?_
      obtain ⟨_, _, declares⟩ := exists_mem_of_forall₂ declared member
      exact declares.serves fun asked => short asked argument member
    obtain ⟨_, used, ran, readyUsed⟩ :=
      ScriptUse.staysReady_run texts.allTexts_profile proper _ ready
    exact ⟨used, ran, Script.destroy_of_ready readyUsed,
      Catalog.add_of_ready texts.allTexts_profile readyUsed⟩

end Registration

end

namespace Registration

/-- An image and a toggle. -/
def imageAndToggle : List Datum :=
  [.tuple [.text ArgKind.image.token, .text "Image", .null],
    .tuple [.text ArgKind.toggle.token, .text "Keep", .int 1]]

theorem registered_script_serves_image :
    ∃ script after used, ((ScriptTexts.plain "s").registration (.list imageAndToggle)).register
        EnumTypes.standard [] = .ok script after ∧
      ScriptUse.run EnumTypes.standard
        [.bindStandard (.list [.int 1, .object .image (.int 4)]), .command 6, .reset true,
          .procedure .plugin] script = .ok () used ∧
      Script.destroy used = .ok () .destroyed := by
  have declared : List.Forall₂ (Declares EnumTypes.standard) imageAndToggle _ :=
    .cons (.intro rfl (ArgKind.ofDatum_token .image) .noItem)
      (.cons (.intro rfl (ArgKind.ofDatum_token .toggle) (.counted 1)) .nil)
  have listed : (Datum.list imageAndToggle).items? = some imageAndToggle := rfl
  obtain ⟨after, registered⟩ :=
    register_of_declares (by decide : (ScriptTexts.plain "s").name ≠ "") listed declared []
  obtain ⟨_, _, _, _, same, _, _, serves⟩ := registered_script_serves registered
  obtain ⟨_, rfl⟩ := Script.ofArguments_inj same
  obtain ⟨used, ran, destroyed, _⟩ := serves True
    [.bindStandard (.list [.int 1, .object .image (.int 4)]), .command 6, .reset true,
      .procedure .plugin] (fun _ => by decide +kernel) (by
    refine List.forall_mem_cons.mpr ⟨⟨_, rfl, fun _ host id member => ?_⟩, ?_⟩
    · obtain ⟨rfl, rfl⟩ : host = .image ∧ id = .int 4 := by simpa using member
      decide +kernel
    · simp [ScriptUse.Proper])
  exact ⟨_, after, used, registered, ran, destroyed⟩

/-- An image whose declared number has one digit more than can be written out. -/
def longImage : List Datum :=
  [.tuple [.text ArgKind.image.token, .text "Image", .int (10 ^ 4300)]]

/-- A script can be registered of which no command can be written, and an invocation that has a size
and no positions cannot be bound to it. -/
theorem registered_without_command :
    ∃ script after, ((ScriptTexts.plain "s").registration (.list longImage)).register
        EnumTypes.standard [] = .ok script after ∧
      Script.command (.places 6) script = .error (.tooManyDigits 4300) script ∧
      Script.bindStandard (.record [("mode", .int 0), ("image", .object .image (.int 4))]) script =
        .error (.noPosition 1) script := by
  have declared : List.Forall₂ (Declares EnumTypes.standard) longImage _ :=
    .cons (.intro rfl (ArgKind.ofDatum_token .image) (.item _)) .nil
  have listed : (Datum.list longImage).items? = some longImage := rfl
  obtain ⟨after, registered⟩ :=
    register_of_declares (by decide : (ScriptTexts.plain "s").name ≠ "") listed declared []
  refine ⟨_, after, registered, ?_, rfl⟩
  have long : isShort (10 ^ 4300) = false := by decide +kernel
  refine Script.command_of_fault _ _ _ _ ?_
  simp only [storedTokens, List.mapM_cons, Payload.token, idToken, Datum.written,
    Datum.unshown?_int, long]
  rfl

end Registration

end ScriptCatalog
