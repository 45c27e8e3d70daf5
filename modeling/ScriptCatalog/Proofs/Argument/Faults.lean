import ScriptCatalog.Procedure.Build
import ScriptCatalog.Script.Binding
import ScriptCatalog.Proofs.Act

/-! Why things fail. Values, payloads and arguments know nothing of scripts being held: whatever
fails among them fails for another reason than that. -/

namespace ScriptCatalog

variable [Platform]

/-- Any fault but that of a script that is held already. -/
def Fault.Uncontended (fault : Fault) : Prop := ∀ name, fault ≠ .concurrentAccess name

def Fault.isContention : Fault → Bool
  | .concurrentAccess _ => true
  | _ => false

theorem Fault.uncontended_of_isContention {fault : Fault} (other : fault.isContention = false) :
    fault.Uncontended := by
  rintro name rfl
  cases other

section

variable {α β : Type} {allowed : Fault → Prop}

theorem failsOnly_mapM {act : α → Except Fault β} (each : ∀ item, FailsOnly allowed (act item))
    (items : List α) : FailsOnly allowed (items.mapM act) := by
  intro fault failed
  obtain ⟨_, item, _, _, _, failed⟩ := (mapM_eq_error_iff act items fault).mp failed
  exact each item fault failed

theorem failsOnly_forM {act : α → Except Fault PUnit} (each : ∀ item, FailsOnly allowed (act item))
    (items : List α) : FailsOnly allowed (items.forM act) := by
  induction items with
  | nil => exact failsOnly_ok _
  | cons item items ih => exact (each item).bind fun _ _ => ih

end

namespace Datum

variable (value : Datum)

theorem written_uncontended : FailsOnly Fault.Uncontended value.written := by
  unfold written
  cases value.unshown? with
  | none => exact failsOnly_ok _
  | some obstacle => cases obstacle <;> exact failsOnly_error nofun

theorem items_uncontended : FailsOnly Fault.Uncontended value.items := by
  unfold items
  cases value.items? with
  | none => exact failsOnly_error nofun
  | some items => exact failsOnly_ok items

theorem size_uncontended : FailsOnly Fault.Uncontended value.size := by
  intro fault failed
  cases value <;> cases failed <;> nofun

theorem itemsByPosition_uncontended (asked : Nat) :
    FailsOnly Fault.Uncontended (itemsByPosition asked value) := by
  unfold itemsByPosition
  split
  · exact failsOnly_error nofun
  · exact items_uncontended _

theorem itemAt_uncontended (index : Nat) : FailsOnly Fault.Uncontended (value.itemAt index) := by
  refine (value.itemsByPosition_uncontended index).bind fun items _ => ?_
  cases items[index]? with
  | none => exact failsOnly_error nofun
  | some item => exact failsOnly_ok item

theorem expectHashable_uncontended : FailsOnly Fault.Uncontended value.expectHashable := by
  unfold expectHashable
  cases value.unhashable? with
  | none => exact failsOnly_ok _
  | some type => exact failsOnly_error nofun

theorem place_uncontended : FailsOnly Fault.Uncontended value.place := by
  intro fault failed
  cases value <;> cases failed <;> nofun

theorem isBelow_uncontended (size : Nat) : FailsOnly Fault.Uncontended (value.isBelow size) := by
  intro fault failed
  cases value <;> cases failed <;> nofun

theorem index_uncontended : FailsOnly Fault.Uncontended value.index := by
  intro fault failed
  cases value <;> cases failed <;> nofun

theorem expectTexts_uncontended (index : Nat) (items : List Datum) :
    FailsOnly Fault.Uncontended (expectTexts index items) := by
  induction items generalizing index with
  | nil => exact failsOnly_ok _
  | cons item items ih =>
      cases item with
      | text words => exact (ih (index + 1)).bind fun _ _ => failsOnly_ok _
      | _ => exact failsOnly_error nofun

end Datum

theorem expectInside_uncontended (index : Int) (size last : Nat) :
    FailsOnly Fault.Uncontended (expectInside index size last) := by
  unfold expectInside
  split
  · exact failsOnly_ok _
  · exact failsOnly_error nofun

/-! Tokens. -/

theorem realNumber_uncontended (value : Datum) :
    FailsOnly Fault.Uncontended (realNumber value) := by
  cases value with
  | int number =>
      rw [realNumber]
      cases Binary64.ofInt? number with
      | none => exact failsOnly_error nofun
      | some real => exact failsOnly_ok real
  | real number => exact failsOnly_ok number
  | bool truth => exact failsOnly_ok _
  | _ => exact failsOnly_error nofun

theorem count_uncontended (precision : Precision) :
    FailsOnly Fault.Uncontended precision.count := by
  unfold Precision.count
  split
  · split
    · exact failsOnly_ok _
    · exact failsOnly_error nofun
  · exact failsOnly_error nofun

theorem numberToken_uncontended (precision : Precision) (value : Datum) :
    FailsOnly Fault.Uncontended (numberToken precision value) :=
  (count_uncontended precision).bind fun _ _ =>
    (realNumber_uncontended value).bind fun _ _ => failsOnly_ok _

theorem escapedText_uncontended (value : Datum) :
    FailsOnly Fault.Uncontended (escapedText value) := by
  unfold escapedText
  split
  · exact failsOnly_ok _
  · refine (Datum.items_uncontended _).bind fun items _ => ?_
    refine (failsOnly_forM Datum.expectHashable_uncontended items).bind fun _ _ => ?_
    exact (Datum.expectTexts_uncontended 0 items).bind fun _ _ => failsOnly_ok _

theorem textToken_uncontended (value : Datum) : FailsOnly Fault.Uncontended (textToken value) := by
  unfold textToken
  split
  · exact failsOnly_ok _
  · exact failsOnly_ok _
  · exact (escapedText_uncontended _).bind fun _ _ => failsOnly_ok _

theorem colorToken_uncontended (value : Datum) :
    FailsOnly Fault.Uncontended (colorToken value) := by
  intro fault failed
  cases value <;> cases failed <;> nofun

theorem rawToken_uncontended (value : Datum) : FailsOnly Fault.Uncontended (rawToken value) := by
  unfold rawToken
  split
  · exact failsOnly_ok _
  · refine (Datum.size_uncontended _).bind fun size _ => ?_
    split
    · exact failsOnly_ok _
    · exact failsOnly_ok _

theorem idToken_uncontended (id : Datum) : FailsOnly Fault.Uncontended (idToken id) := by
  unfold idToken
  split <;> exact Datum.written_uncontended _

namespace Payload

theorem token_uncontended (precision : Precision) (payload : Payload) :
    FailsOnly Fault.Uncontended (payload.token precision) := by
  cases payload with
  | itemId id => exact (idToken_uncontended id).bind fun _ _ => failsOnly_ok _
  | color shade => exact (colorToken_uncontended shade).bind fun _ _ => failsOnly_ok _
  | toggle active => exact failsOnly_ok _
  | rawText words => exact rawToken_uncontended words
  | text words => exact (textToken_uncontended words).bind fun _ _ => failsOnly_ok _
  | adjustment value =>
      exact (numberToken_uncontended precision value).bind fun _ _ => failsOnly_ok _
  | file filename => exact (textToken_uncontended filename).bind fun _ _ => failsOnly_ok _
  | resource name => exact (textToken_uncontended name).bind fun _ _ => failsOnly_ok _
  | brush name opacity spacing paintMode =>
      refine FailsOnly.bind ?_ fun _ _ => failsOnly_ok _
      refine (textToken_uncontended name).bind fun _ _ => ?_
      refine (numberToken_uncontended precision opacity).bind fun _ _ => ?_
      refine spacing.written_uncontended.bind fun _ _ => ?_
      exact paintMode.written_uncontended.bind fun _ _ => failsOnly_ok _
  | option labels selected => exact failsOnly_ok _
  | enum typeName selected => exact failsOnly_ok _

/-! Copies and updates. -/

variable (types : EnumTypes)

theorem makeOption_uncontended (labels : List Datum) (selected : Int) :
    FailsOnly Fault.Uncontended (makeOption labels selected) :=
  (expectInside_uncontended _ _ _).bind fun _ _ => failsOnly_ok _

theorem makeEnum_uncontended (typeName selected : Datum) :
    FailsOnly Fault.Uncontended (makeEnum types typeName selected) := by
  refine FailsOnly.bind ?_ fun found _ => ?_
  · exact typeName.expectHashable_uncontended.bind fun _ _ => failsOnly_ok _
  · cases found with
    | none => exact failsOnly_error nofun
    | some nicks =>
        refine selected.index_uncontended.bind fun _ _ => ?_
        exact (expectInside_uncontended _ _ _).bind fun _ _ => failsOnly_ok _

theorem ofNumber_uncontended (code : Int) : FailsOnly Fault.Uncontended (Color.ofNumber code) := by
  unfold Color.ofNumber
  split
  · exact failsOnly_ok _
  · exact failsOnly_error nofun

theorem color_uncontended (value : Datum) : FailsOnly Fault.Uncontended (Color.ofDatum value) := by
  cases value with
  | null => exact failsOnly_ok _
  | text words => exact failsOnly_ok _
  | color shade => exact failsOnly_ok _
  | bool truth => exact ofNumber_uncontended _
  | int number => exact ofNumber_uncontended _
  | real number =>
      rw [Color.ofDatum]
      cases number.truncate? with
      | none => exact failsOnly_error nofun
      | some whole => exact ofNumber_uncontended whole
  | _ => exact failsOnly_error nofun

theorem copy_uncontended (payload : Payload) :
    FailsOnly Fault.Uncontended (payload.copy types) := by
  cases payload with
  | color shade => exact (color_uncontended shade).bind fun _ _ => failsOnly_ok _
  | option labels selected => exact makeOption_uncontended labels selected
  | enum typeName selected => exact makeEnum_uncontended types typeName _
  | _ => exact failsOnly_ok _

theorem paramText_uncontended (param : Datum) :
    FailsOnly Fault.Uncontended (paramText param) := by
  intro fault failed
  cases param <;> cases failed <;> nofun

theorem paramSelection_uncontended (param : Datum) :
    FailsOnly Fault.Uncontended (paramSelection param) := by
  intro fault failed
  cases param <;> cases failed <;> nofun

theorem paramItemId_uncontended (param : Datum) :
    FailsOnly Fault.Uncontended (paramItemId param) := by
  unfold paramItemId
  split
  · exact failsOnly_ok _
  · exact failsOnly_ok _
  · exact failsOnly_error nofun

theorem paramColor_uncontended (param : Datum) :
    FailsOnly Fault.Uncontended (paramColor param) := by
  intro fault failed
  cases param <;> cases failed <;> nofun

theorem paramToggle_uncontended (param : Datum) :
    FailsOnly Fault.Uncontended (paramToggle param) := by
  intro fault failed
  cases param <;> cases failed <;> nofun

theorem paramNumber_uncontended (param : Datum) :
    FailsOnly Fault.Uncontended (paramNumber param) := by
  cases param with
  | int number =>
      rw [paramNumber]
      cases Binary64.ofInt? number with
      | none => exact failsOnly_error nofun
      | some real => exact failsOnly_ok real
  | real number => exact failsOnly_ok number
  | _ => exact failsOnly_error nofun

theorem updated_uncontended (payload : Payload) (param : Datum) :
    FailsOnly Fault.Uncontended (payload.updated types param) := by
  unfold updated
  split
  · exact (paramItemId_uncontended _).bind fun _ _ => failsOnly_ok _
  · exact (paramColor_uncontended _).bind fun _ _ => failsOnly_ok _
  · exact (paramToggle_uncontended _).bind fun _ _ => failsOnly_ok _
  · exact (paramText_uncontended _).bind fun _ _ => failsOnly_ok _
  · exact (paramText_uncontended _).bind fun _ _ => failsOnly_ok _
  · exact (paramNumber_uncontended _).bind fun _ _ => failsOnly_ok _
  · exact (paramText_uncontended _).bind fun _ _ => failsOnly_ok _
  · exact (paramText_uncontended _).bind fun _ _ => failsOnly_ok _
  · exact failsOnly_ok _
  · exact (paramText_uncontended _).bind fun _ _ => failsOnly_ok _
  · exact (paramSelection_uncontended _).bind fun _ _ => makeOption_uncontended _ _
  · exact (paramSelection_uncontended _).bind fun _ _ => makeEnum_uncontended types _ _

theorem paramToken_uncontended (precision : Precision) (payload : Payload) (param : Datum) :
    FailsOnly Fault.Uncontended (payload.paramToken types precision param) := by
  unfold paramToken
  split
  · exact token_uncontended precision _
  · refine (paramText_uncontended _).bind fun _ _ => ?_
    exact (textToken_uncontended _).bind fun _ _ => failsOnly_ok _
  · exact (updated_uncontended types _ _).bind fun _ _ => token_uncontended precision _

end Payload

/-! Labels and arguments. -/

namespace Label

theorem unmarkedChars_uncontended (label : Label) :
    FailsOnly Fault.Uncontended label.unmarkedChars := by
  unfold unmarkedChars
  split
  · exact failsOnly_ok _
  · refine FailsOnly.bind ?_ fun items _ => ?_
    · unfold items
      split
      · exact failsOnly_ok _
      · exact failsOnly_ok _
      · exact failsOnly_ok _
      · exact failsOnly_error nofun
      · exact failsOnly_error nofun
    · exact (Datum.expectTexts_uncontended 0 _).bind fun _ _ => failsOnly_ok _

theorem title_uncontended (label : Label) : FailsOnly Fault.Uncontended label.title :=
  (unmarkedChars_uncontended label).bind fun _ _ => failsOnly_ok _

theorem shown_uncontended (label : Label) : FailsOnly Fault.Uncontended label.shown := by
  intro fault failed
  cases label <;> cases failed <;> nofun

end Label

namespace Argument

theorem expectPayload_uncontended (label : Datum) (kind : ArgKind) (value : Datum) :
    FailsOnly Fault.Uncontended (expectPayload label kind value) := by
  unfold expectPayload
  split
  · split
    · exact failsOnly_ok _
    · exact failsOnly_error nofun
  · exact failsOnly_error nofun

theorem assign_uncontended (value : Datum) (argument : Argument) :
    FailsOnly Fault.Uncontended (argument.assign value) :=
  (expectPayload_uncontended _ _ value).bind fun _ _ => failsOnly_ok _

theorem setFromParam_uncontended (types : EnumTypes) (param : Datum) (argument : Argument) :
    FailsOnly Fault.Uncontended (argument.setFromParam types param) :=
  (Payload.updated_uncontended types _ param).bind fun _ _ => failsOnly_ok _

theorem reset_uncontended (types : EnumTypes) (resetIds : Bool) :
    (reset types resetIds).FailsOnly Fault.Uncontended := by
  intro argument fault final failed
  unfold reset at failed
  split at failed
  · cases failed
  · cases copied : argument.default.copy types with
    | ok value =>
        rw [copied] at failed
        cases failed
    | error cause =>
        rw [copied] at failed
        cases failed
        exact Payload.copy_uncontended types _ _ copied

end Argument

end ScriptCatalog
