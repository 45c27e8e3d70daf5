import ScriptCatalog.Proofs.Argument.Payload
import ScriptCatalog.Proofs.Command.Token
import ScriptCatalog.Proofs.Fault

/-! Which declared defaults an argument type accepts, and as what payload. A default that is not
accepted is refused as a wrong type or a wrong value. The one exception is a default with an integer
beyond the range of numbers where a number is declared. -/

namespace ScriptCatalog

variable [Platform]

namespace Payload

/-- The number that a value declares: itself, or the one nearest to an integer in range. -/
inductive DeclaresNumber : Datum → Binary64 → Prop
  | real (number : Binary64) : DeclaresNumber (.real number) number
  | int {number : Int} {nearest : Binary64} (inRange : Binary64.ofInt? number = some nearest) :
      DeclaresNumber (.int number) nearest

/-- What an adjustment declares after its digits, and whether it has a slider by that. -/
inductive DeclaresSlider : List Datum → Bool → Prop
  | unsaid : DeclaresSlider [] true
  | slider : DeclaresSlider [.int 0] true
  | spinBox : DeclaresSlider [.int 1] false

/-- The defaults that a form of payload accepts, each with the payload it stands for. -/
inductive Accepts (types : EnumTypes) : PayloadKind → Datum → Payload → Prop
  | noItem : Accepts types .itemId .null (itemId (.int noItemId))
  | item (id : Int) : Accepts types .itemId (.int id) (itemId (.int id))
  | shade {shade : Color} (valid : shade.isValid = true) :
      Accepts types .color (.color shade) (color (.color shade))
  | colorName {words : String} (valid : (Platform.colorOfText words).isValid = true) :
      Accepts types .color (.text words) (color (.color (Platform.colorOfText words)))
  | components {default : Datum} {red green blue : Int}
      (listed : default.sequence? = some [.int red, .int green, .int blue])
      (bytes : ∀ component ∈ [red, green, blue], 0 ≤ component ∧ component ≤ 255) :
      Accepts types .color default (color (.color (Platform.colorOfComponents red green blue 255)))
  | toggle (active : Bool) : Accepts types .toggle (.bool active) (toggle (.bool active))
  | counted (number : Int) : Accepts types .toggle (.int number) (toggle (.bool (number != 0)))
  | rawText {words : Datum} (typed : words.hasType [.text, .null] = true) :
      Accepts types .rawText words (rawText words)
  | text {words : Datum} (typed : words.hasType [.text, .null] = true) :
      Accepts types .text words (text words)
  | file {filename : Datum} (typed : filename.hasType [.text, .null] = true) :
      Accepts types .file filename (file filename)
  | resource {name : Datum} (typed : name.hasType [.text, .null] = true) :
      Accepts types .resource name (resource name)
  | adjustment {default : Datum} {declared shape : List Datum}
      {value lower upper step page : Binary64} {digits : Int} {slider : Bool}
      (listed : default.sequence? = some (declared ++ .int digits :: shape))
      (numbers : List.Forall₂ DeclaresNumber declared [value, lower, upper, step, page])
      (shaped : DeclaresSlider shape slider) (ordered : upper.less lower = false) :
      Accepts types .adjustment default (adjustment (.real value) (.real lower) (.real upper)
        (.real step) (.real page) (.int digits) (.bool slider))
  | brush {default name declared : Datum} {opacity : Binary64} {spacing paintMode : Int}
      (listed : default.sequence? = some [name, declared, .int spacing, .int paintMode])
      (typed : name.hasType [.text, .null] = true) (number : DeclaresNumber declared opacity) :
      Accepts types .brush default (brush name (.real opacity) (.int spacing) (.int paintMode))
  | option {default : Datum} {labels : List String}
      (listed : default.sequence? = some (labels.map .text)) (any : labels ≠ []) :
      Accepts types .option default (option (labels.map .text) 0)
  | enum {default : Datum} {typeName nick : String} {nicks : List String} {index : Nat}
      (listed : default.sequence? = some [.text typeName, .text nick])
      (known : types.nicks? (.text typeName) = .ok (some nicks))
      (first : nicks.findIdx? (· == nick) = some index) :
      Accepts types .enum default (enum (.text typeName) index)

/-- An integer beyond the range of numbers. -/
def IsBeyond (value : Datum) : Prop := ∃ number, value = .int number ∧ Binary64.ofInt? number = none

/-- An integer beyond the range that is declared after numbers in range. -/
def FirstBeyond (declared : List Datum) : Prop :=
  ∃ before value after, declared = before ++ value :: after ∧
    (∀ earlier ∈ before, ∃ number, DeclaresNumber earlier number) ∧ IsBeyond value

/-- The defaults that have an integer beyond the range where a number is declared, and nothing wrong
before it. -/
inductive Oversized : PayloadKind → Datum → Prop
  | adjustment {default digits : Datum} {declared shape : List Datum}
      (listed : default.sequence? = some (declared ++ digits :: shape))
      (five : declared.length = 5) (atMost : shape.length ≤ 1) (beyond : FirstBeyond declared) :
      Oversized .adjustment default
  | brush {default name opacity spacing paintMode : Datum}
      (listed : default.sequence? = some [name, opacity, spacing, paintMode])
      (typed : name.hasType [.text, .null] = true) (beyond : IsBeyond opacity) :
      Oversized .brush default

/-! Single fields. -/

theorem defaultText_eq_ok_iff (value words : Datum) :
    defaultText value = .ok words ↔ words = value ∧ value.hasType [.text, .null] = true := by
  constructor
  · intro read
    cases value <;> cases read
    · exact ⟨rfl, rfl⟩
    · exact ⟨rfl, rfl⟩
  · rintro ⟨rfl, typed⟩
    rcases words.optionalText_cases typed with rfl | ⟨words, rfl⟩
    · rfl
    · rfl

theorem defaultText_refuses (value : Datum) :
    FailsOnly (Fault.Refuses [value]) (defaultText value) := by
  cases value with
  | null | text => exact failsOnly_ok _
  | _ => exact failsOnly_error (Fault.refuses_of_eq (.inl rfl) nofun rfl)

theorem requiredText_eq_ok_iff (value : Datum) (words : String) :
    requiredText value = .ok words ↔ value = .text words := by
  cases value <;> simp [requiredText]

theorem requiredText_refuses (value : Datum) :
    FailsOnly (Fault.Refuses [value]) (requiredText value) := by
  cases value with
  | text => exact failsOnly_ok _
  | _ => exact failsOnly_error (Fault.refuses_of_eq (.inl rfl) nofun rfl)

theorem defaultInteger_eq_ok_iff (value : Datum) (number : Int) :
    defaultInteger value = .ok number ↔ value = .int number := by
  cases value <;> simp [defaultInteger]

theorem defaultInteger_refuses (value : Datum) :
    FailsOnly (Fault.Refuses [value]) (defaultInteger value) := by
  cases value with
  | int => exact failsOnly_ok _
  | _ => exact failsOnly_error (Fault.refuses_of_eq (.inl rfl) nofun rfl)

theorem defaultNumber_eq_ok_iff (value : Datum) (number : Binary64) :
    defaultNumber value = .ok number ↔ DeclaresNumber value number := by
  constructor
  · intro read
    cases value with
    | real held =>
        cases read
        exact .real number
    | int held =>
        cases inRange : Binary64.ofInt? held with
        | some nearest =>
            rw [defaultNumber, inRange] at read
            cases read
            exact .int inRange
        | none =>
            rw [defaultNumber, inRange] at read
            cases read
    | _ => cases read
  · intro declares
    cases declares with
    | real => rfl
    | int inRange => simp only [defaultNumber, inRange, Option.elim_some]

theorem defaultNumber_of_beyond {value : Datum} (beyond : IsBeyond value) :
    defaultNumber value = .error .intTooLarge := by
  obtain ⟨number, rfl, beyond⟩ := beyond
  simp only [defaultNumber, beyond, Option.elim_none]

theorem defaultNumber_eq_error {value : Datum} {fault : Fault}
    (failed : defaultNumber value = .error fault) :
    fault.Refuses [value] ∨ fault = .intTooLarge ∧ IsBeyond value := by
  cases value with
  | real held => cases failed
  | int held =>
      cases inRange : Binary64.ofInt? held with
      | some nearest =>
          rw [defaultNumber, inRange] at failed
          cases failed
      | none =>
          rw [defaultNumber, inRange] at failed
          cases failed
          exact .inr ⟨rfl, held, rfl, inRange⟩
  | _ =>
      cases failed
      exact .inl (Fault.refuses_of_eq (.inl rfl) nofun rfl)

theorem defaultNumbers_eq_ok_iff (declared : List Datum) (numbers : List Binary64) :
    declared.mapM defaultNumber = .ok numbers ↔ List.Forall₂ DeclaresNumber declared numbers := by
  simp only [mapM_eq_ok_iff, defaultNumber_eq_ok_iff]

theorem defaultNumbers_of_beyond {declared : List Datum} (beyond : FirstBeyond declared) :
    declared.mapM defaultNumber = .error .intTooLarge := by
  obtain ⟨before, value, after, rfl, inRange, beyond⟩ := beyond
  refine (mapM_eq_error_iff _ _ _).mpr ⟨before, value, after, rfl, fun earlier member => ?_,
    defaultNumber_of_beyond beyond⟩
  obtain ⟨number, declares⟩ := inRange earlier member
  exact ⟨number, (defaultNumber_eq_ok_iff _ _).mpr declares⟩

theorem defaultNumbers_eq_error {declared : List Datum} {fault : Fault}
    (failed : declared.mapM defaultNumber = .error fault) :
    fault.Refuses declared ∨ fault = .intTooLarge ∧ FirstBeyond declared := by
  obtain ⟨before, value, after, rfl, passed, failed⟩ := (mapM_eq_error_iff _ _ _).mp failed
  refine (defaultNumber_eq_error failed).imp (fun refuses => ?_) fun ⟨same, beyond⟩ => ⟨same, ?_⟩
  · exact refuses.of_forall fun each => List.forall_mem_singleton.mpr (each value (by simp))
  refine ⟨before, value, after, rfl, fun earlier member => ?_, beyond⟩
  obtain ⟨number, read⟩ := passed earlier member
  exact ⟨number, (defaultNumber_eq_ok_iff _ _).mp read⟩

theorem expectSequence_eq_ok_iff (lengths : List Nat) (default : Datum) (items : List Datum) :
    expectSequence lengths default = .ok items ↔
      default.sequence? = some items ∧ items.length ∈ lengths := by
  unfold expectSequence
  cases default.sequence? with
  | none => simp
  | some held =>
      dsimp only
      by_cases fits : lengths.contains held.length = true
      · rw [if_pos fits, Except.ok.injEq, Option.some.injEq]
        constructor
        · rintro rfl
          exact ⟨rfl, List.contains_iff_mem.mp fits⟩
        · exact And.left
      · rw [if_neg fits]
        constructor
        · rintro ⟨⟩
        · rintro ⟨same, member⟩
          cases same
          exact absurd (List.contains_iff_mem.mpr member) fits

theorem expectSequence_refuses (lengths : List Nat) (default : Datum) :
    FailsOnly (Fault.Refuses [default]) (expectSequence lengths default) := by
  unfold expectSequence
  cases default.sequence? with
  | none => exact failsOnly_error (Fault.refuses_of_eq (.inl rfl) nofun rfl)
  | some items =>
      dsimp only
      split
      · exact failsOnly_ok _
      · exact failsOnly_error (Fault.refuses_of_nil (.inr rfl) nofun rfl)

theorem sequence_of_items {default : Datum} {items : List Datum}
    (listed : default.sequence? = some items) : default = .list items ∨ default = .tuple items := by
  cases default <;> cases listed
  · exact .inl rfl
  · exact .inr rfl

/-! Items, colors, toggles and texts. -/

section

variable {types : EnumTypes} {default : Datum} {payload : Payload}

theorem colorComponent_eq_ok_iff (value : Datum) (component : Int) :
    colorComponent value = .ok component ↔
      value = .int component ∧ 0 ≤ component ∧ component ≤ 255 := by
  rw [colorComponent, Except.bind_eq_ok]
  simp only [defaultInteger_eq_ok_iff]
  constructor
  · rintro ⟨held, rfl, read⟩
    split at read
    next byte =>
      cases read
      exact ⟨rfl, byte⟩
    next => cases read
  · rintro ⟨rfl, byte⟩
    exact ⟨component, rfl, if_pos byte⟩

theorem colorComponent_refuses (value : Datum) :
    FailsOnly (Fault.Refuses [value]) (colorComponent value) := by
  refine (defaultInteger_refuses value).bind fun component read => ?_
  split
  · exact failsOnly_ok _
  · cases (defaultInteger_eq_ok_iff _ _).mp read
    exact failsOnly_error (Fault.refuses_of_eq (.inr rfl) nofun rfl)

theorem isValid_colorOfComponents {red green blue : Int}
    (bytes : ∀ component ∈ [red, green, blue], 0 ≤ component ∧ component ≤ 255) :
    (Platform.colorOfComponents red green blue 255).isValid = true := by
  have each : [red, green, blue, 255].all Color.isByte = true := by
    rw [List.all_eq_true]
    intro component member
    rw [Color.isByte, Bool.and_eq_true, decide_eq_true_eq, decide_eq_true_eq]
    rcases List.mem_append.mp (show component ∈ [red, green, blue] ++ [255] from member) with
      shown | alpha
    · exact bytes component shown
    · cases List.mem_singleton.mp alpha
      decide
  exact Platform.valid_colorOfComponents red green blue 255 each

/-- The color that declared components make. -/
def mixedColor : List Datum → Except Fault Color
  | [red, green, blue] => do
      let red ← colorComponent red
      let green ← colorComponent green
      let blue ← colorComponent blue
      return Platform.colorOfComponents red green blue 255
  | _ => .ok Color.invalid

/-- A color if it is one, as it was declared. -/
def validColor (default : Datum) (shade : Color) : Except Fault Color :=
  if shade.isValid then .ok shade else .error (.invalidColor default)

theorem validColor_eq_ok_iff (shade held : Color) :
    validColor default shade = .ok held ↔ held = shade ∧ shade.isValid = true := by
  unfold validColor
  cases valid : shade.isValid with
  | true => simp [eq_comm]
  | false => simp

theorem validColor_refuses (shade : Color) :
    FailsOnly (Fault.Refuses [default]) (validColor default shade) := by
  unfold validColor
  split
  · exact failsOnly_ok _
  · exact failsOnly_error (Fault.refuses_of_eq (.inr rfl) nofun rfl)

theorem mixedColor_of_bytes {red green blue : Int}
    (bytes : ∀ component ∈ [red, green, blue], 0 ≤ component ∧ component ≤ 255) :
    mixedColor [.int red, .int green, .int blue] =
      .ok (Platform.colorOfComponents red green blue 255) := by
  have read (component : Int) (member : component ∈ [red, green, blue]) :=
    (colorComponent_eq_ok_iff (.int component) component).mpr ⟨rfl, bytes component member⟩
  rw [mixedColor, read red (by simp), read green (by simp), read blue (by simp)]
  rfl

theorem bytes_of_mixedColor {items : List Datum} {shade : Color} (three : items.length ∈ [3])
    (mixed : mixedColor items = .ok shade) :
    ∃ red green blue, items = [.int red, .int green, .int blue] ∧
      (∀ component ∈ [red, green, blue], 0 ≤ component ∧ component ≤ 255) ∧
      shade = Platform.colorOfComponents red green blue 255 := by
  obtain ⟨red, green, blue, rfl⟩ := List.length_eq_three.mp (List.mem_singleton.mp three)
  obtain ⟨red, readRed, mixed⟩ := (Except.bind_eq_ok _ _ _).mp mixed
  obtain ⟨green, readGreen, mixed⟩ := (Except.bind_eq_ok _ _ _).mp mixed
  obtain ⟨blue, readBlue, same⟩ := (Except.bind_eq_ok _ _ _).mp mixed
  cases same
  obtain ⟨rfl, byteRed⟩ := (colorComponent_eq_ok_iff _ _).mp readRed
  obtain ⟨rfl, byteGreen⟩ := (colorComponent_eq_ok_iff _ _).mp readGreen
  obtain ⟨rfl, byteBlue⟩ := (colorComponent_eq_ok_iff _ _).mp readBlue
  refine ⟨red, green, blue, rfl, ?_, rfl⟩
  simp [byteRed, byteGreen, byteBlue]

theorem mixedColor_refuses (items : List Datum) :
    FailsOnly (Fault.Refuses items) (mixedColor items) := by
  unfold mixedColor
  split
  next red green blue =>
    have each (component : Datum) (member : component ∈ [red, green, blue]) :
        FailsOnly (Fault.Refuses [red, green, blue]) (colorComponent component) :=
      (colorComponent_refuses component).mono fun _ refuses => refuses.among member
    refine (each red (by simp)).bind fun _ _ => ?_
    refine (each green (by simp)).bind fun _ _ => ?_
    exact (each blue (by simp)).bind fun _ _ => failsOnly_ok _
  next => exact failsOnly_ok _

theorem defaultColor_of_sequence {items : List Datum} (listed : default.sequence? = some items) :
    defaultColor default =
      expectSequence [3] default >>= fun held => mixedColor held >>= validColor default := by
  rcases sequence_of_items listed with rfl | rfl
  all_goals
    unfold defaultColor
    refine congrArg _ (funext fun held => ?_)
    dsimp only
    split
    · simp only [mixedColor, bind_assoc, pure_bind]
      rfl
    next other =>
      rw [mixedColor]
      · rfl
      · exact other

theorem defaultColor_eq_ok_iff (shade : Color) :
    defaultColor default = .ok shade ↔
      Accepts types .color default (color (.color shade)) := by
  cases listed : default.sequence? with
  | some items =>
      rw [defaultColor_of_sequence listed]
      constructor
      · intro read
        obtain ⟨held, expected, read⟩ := (Except.bind_eq_ok _ _ _).mp read
        obtain ⟨made, mixed, valid⟩ := (Except.bind_eq_ok _ _ _).mp read
        obtain ⟨rfl, _⟩ := (validColor_eq_ok_iff _ _).mp valid
        obtain ⟨listed, three⟩ := (expectSequence_eq_ok_iff _ _ _).mp expected
        obtain ⟨red, green, blue, rfl, bytes, rfl⟩ := bytes_of_mixedColor three mixed
        exact .components listed bytes
      · intro accepts
        cases accepts with
        | components listed bytes =>
            have expected :=
              (expectSequence_eq_ok_iff [3] _ _).mpr ⟨listed, List.mem_singleton.mpr rfl⟩
            have valid := isValid_colorOfComponents bytes
            rw [expected]
            change mixedColor _ >>= _ = _
            rw [mixedColor_of_bytes bytes]
            exact (validColor_eq_ok_iff _ _).mpr ⟨rfl, valid⟩
        | _ => cases listed
  | none =>
      cases default with
      | color held =>
          refine (validColor_eq_ok_iff held shade).trans ?_
          constructor
          · rintro ⟨rfl, valid⟩
            exact .shade valid
          · intro accepts
            cases accepts with
            | shade valid => exact ⟨rfl, valid⟩
            | components listed => cases listed
      | text words =>
          refine (validColor_eq_ok_iff (Platform.colorOfText words) shade).trans ?_
          constructor
          · rintro ⟨rfl, valid⟩
            exact .colorName valid
          · intro accepts
            cases accepts with
            | colorName valid => exact ⟨rfl, valid⟩
            | components listed => cases listed
      | list items => cases listed
      | tuple items => cases listed
      | _ =>
          constructor
          · intro read
            cases read
          · intro accepts
            cases accepts with
            | components listed => cases listed

theorem defaultColor_refuses (default : Datum) :
    FailsOnly (Fault.Refuses [default]) (defaultColor default) := by
  cases listed : default.sequence? with
  | some items =>
      rw [defaultColor_of_sequence listed]
      refine (expectSequence_refuses _ _).bind fun held expected => ?_
      have listed := ((expectSequence_eq_ok_iff _ _ _).mp expected).1
      refine FailsOnly.bind ?_ fun shade _ => validColor_refuses shade
      exact (mixedColor_refuses held).mono fun _ refuses => refuses.of_sequence listed fun _ => id
  | none =>
      cases default with
      | color shade => exact validColor_refuses shade
      | text words => exact validColor_refuses (Platform.colorOfText words)
      | list items => cases listed
      | tuple items => cases listed
      | _ => exact failsOnly_error (Fault.refuses_of_eq (.inl rfl) nofun rfl)

theorem defaultItemId_of_ne_null (given : default ≠ .null) :
    defaultItemId default = defaultInteger default := by
  cases default with
  | null => exact absurd rfl given
  | _ => rfl

theorem defaultItemId_eq_ok_iff (id : Int) :
    defaultItemId default = .ok id ↔ Accepts types .itemId default (itemId (.int id)) := by
  by_cases none : default = .null
  · cases none
    constructor
    · rintro ⟨⟩
      exact .noItem
    · rintro ⟨⟩
      rfl
  · rw [defaultItemId_of_ne_null none, defaultInteger_eq_ok_iff]
    constructor
    · rintro rfl
      exact .item id
    · intro accepts
      cases accepts with
      | noItem => exact absurd rfl none
      | item => rfl

theorem defaultItemId_refuses (default : Datum) :
    FailsOnly (Fault.Refuses [default]) (defaultItemId default) := by
  by_cases none : default = .null
  · cases none
    exact failsOnly_ok _
  · rw [defaultItemId_of_ne_null none]
    exact defaultInteger_refuses default

theorem defaultToggle_eq_ok_iff (active : Bool) :
    defaultToggle default = .ok active ↔ Accepts types .toggle default (toggle (.bool active)) := by
  constructor
  · intro read
    cases default <;> cases read
    · exact .toggle active
    · exact .counted _
  · intro accepts
    cases accepts <;> rfl

theorem defaultToggle_refuses (default : Datum) :
    FailsOnly (Fault.Refuses [default]) (defaultToggle default) := by
  cases default with
  | bool | int => exact failsOnly_ok _
  | _ => exact failsOnly_error (Fault.refuses_of_eq (.inl rfl) nofun rfl)

/-! Adjustments and brushes. -/

theorem DeclaresSlider.length_le {shape : List Datum} {slider : Bool}
    (declares : DeclaresSlider shape slider) : shape.length ≤ 1 := by
  cases declares <;> decide

theorem sliderShown_eq_ok_iff {shape : List Datum} (atMost : shape.length ≤ 1) (slider : Bool) :
    sliderShown shape = .ok slider ↔ DeclaresSlider shape slider := by
  constructor
  · intro read
    match shape, atMost with
    | [], _ =>
        cases read
        exact .unsaid
    | [shape], _ =>
        obtain ⟨number, integer, shown⟩ := (Except.bind_eq_ok _ _ _).mp read
        cases (defaultInteger_eq_ok_iff _ _).mp integer
        split at shown
        next =>
          cases shown
          exact .slider
        next =>
          cases shown
          exact .spinBox
        next => cases shown
  · intro declares
    cases declares <;> rfl

theorem sliderShown_refuses (shape : List Datum) :
    FailsOnly (Fault.Refuses shape) (sliderShown shape) := by
  cases shape with
  | nil => exact failsOnly_ok _
  | cons shape rest =>
      refine FailsOnly.mono ?_ fun _ (refuses : Fault.Refuses [shape] _) =>
        refuses.among List.mem_cons_self
      refine (defaultInteger_refuses shape).bind fun number read => ?_
      cases (defaultInteger_eq_ok_iff _ _).mp read
      split
      · exact failsOnly_ok _
      · exact failsOnly_ok _
      · exact failsOnly_error (Fault.refuses_of_eq (.inr rfl) nofun rfl)

/-- The adjustment with some numbers, of which there are five. -/
def orderedAdjustment : List Binary64 → Int → Bool → Except Fault Payload
  | [value, lower, upper, step, page], digits, slider =>
      if upper.less lower then .error (.boundsCrossed lower upper)
      else .ok (adjustment (.real value) (.real lower) (.real upper) (.real step) (.real page)
        (.int digits) (.bool slider))
  | numbers, _, _ => .error (.wrongLength [5] numbers.length)

theorem orderedAdjustment_refuses (values : List Datum) (numbers : List Binary64) (digits : Int)
    (slider : Bool) :
    FailsOnly (Fault.Refuses values) (orderedAdjustment numbers digits slider) := by
  unfold orderedAdjustment
  split
  · split
    · exact failsOnly_error (Fault.refuses_of_nil (.inr rfl) nofun rfl)
    · exact failsOnly_ok _
  · exact failsOnly_error (Fault.refuses_of_nil (.inr rfl) nofun rfl)

theorem expectSequence_of_mem {lengths : List Nat} {items : List Datum}
    (listed : default.sequence? = some items) (fits : items.length ∈ lengths) :
    expectSequence lengths default = .ok items :=
  (expectSequence_eq_ok_iff _ _ _).mpr ⟨listed, fits⟩

/-- The numbers of an adjustment are read before its digits and whether it has a slider. -/
theorem defaultAdjustment_of_sequence {declared shape : List Datum} {digits : Datum}
    (listed : default.sequence? = some (declared ++ digits :: shape)) (five : declared.length = 5)
    (atMost : shape.length ≤ 1) :
    defaultAdjustment default =
      declared.mapM defaultNumber >>= fun numbers => defaultInteger digits >>= fun digits =>
        sliderShown shape >>= orderedAdjustment numbers digits := by
  have fits : (declared ++ digits :: shape).length ∈ [6, 7] := by
    rw [List.length_append, five, List.length_cons]
    simp only [List.mem_cons, List.not_mem_nil, or_false]
    omega
  rw [defaultAdjustment, expectSequence_of_mem listed fits]
  match declared, five with
  | [value, lower, upper, step, page], _ =>
      simp only [List.mapM_cons, List.mapM_nil, bind_assoc, pure_bind]
      rfl

theorem adjustment_split {items : List Datum} (fits : items.length ∈ [6, 7]) :
    ∃ declared digits shape, items = declared ++ digits :: shape ∧ declared.length = 5 ∧
      shape.length ≤ 1 := by
  simp only [List.mem_cons, List.not_mem_nil, or_false] at fits
  have long : 5 < items.length := by omega
  refine ⟨items.take 5, items[5], items.drop 6, ?_, ?_, ?_⟩
  · rw [← List.drop_eq_getElem_cons long, List.take_append_drop]
  · rw [List.length_take]
    omega
  · rw [List.length_drop]
    omega

theorem defaultAdjustment_eq_ok_iff :
    defaultAdjustment default = .ok payload ↔ Accepts types .adjustment default payload := by
  constructor
  · intro read
    obtain ⟨items, expected, _⟩ := (Except.bind_eq_ok _ _ _).mp read
    obtain ⟨listed, fits⟩ := (expectSequence_eq_ok_iff _ _ _).mp expected
    obtain ⟨declared, digits, shape, rfl, five, atMost⟩ := adjustment_split fits
    rw [defaultAdjustment_of_sequence listed five atMost] at read
    obtain ⟨numbers, numbered, rest⟩ := (Except.bind_eq_ok _ _ _).mp read
    obtain ⟨digits, integer, rest⟩ := (Except.bind_eq_ok _ _ _).mp rest
    obtain ⟨slider, shaped, made⟩ := (Except.bind_eq_ok _ _ _).mp rest
    cases (defaultInteger_eq_ok_iff _ _).mp integer
    unfold orderedAdjustment at made
    split at made
    next value lower upper step page =>
      split at made
      next => cases made
      next ordered =>
        cases made
        exact .adjustment listed ((defaultNumbers_eq_ok_iff _ _).mp numbered)
          ((sliderShown_eq_ok_iff atMost _).mp shaped) (Bool.eq_false_iff.mpr ordered)
    next => cases made
  · intro accepts
    cases accepts with
    | adjustment listed numbers shaped ordered =>
        have atMost := shaped.length_le
        rw [defaultAdjustment_of_sequence listed numbers.length_eq atMost,
          (defaultNumbers_eq_ok_iff _ _).mpr numbers]
        change sliderShown _ >>= _ = _
        rw [(sliderShown_eq_ok_iff atMost _).mpr shaped]
        exact if_neg (Bool.eq_false_iff.mp ordered)

theorem defaultAdjustment_eq_error {fault : Fault}
    (failed : defaultAdjustment default = .error fault) :
    fault.Refuses [default] ∨ fault = .intTooLarge ∧ Oversized .adjustment default := by
  cases expected : expectSequence [6, 7] default with
  | error cause =>
      rw [defaultAdjustment, expected] at failed
      cases failed
      exact .inl (expectSequence_refuses _ _ _ expected)
  | ok items =>
      obtain ⟨listed, fits⟩ := (expectSequence_eq_ok_iff _ _ _).mp expected
      obtain ⟨declared, digits, shape, rfl, five, atMost⟩ := adjustment_split fits
      rw [defaultAdjustment_of_sequence listed five atMost] at failed
      rcases (Except.bind_eq_error _ _ _).mp failed with failed | ⟨numbers, _, failed⟩
      · refine (defaultNumbers_eq_error failed).imp (fun refuses => ?_) fun ⟨same, beyond⟩ =>
          ⟨same, .adjustment listed five atMost beyond⟩
        exact refuses.of_sequence listed fun _ => List.mem_append_left _
      · have others : FailsOnly (Fault.Refuses (digits :: shape))
            (defaultInteger digits >>= fun digits =>
              sliderShown shape >>= orderedAdjustment numbers digits) := by
          refine FailsOnly.bind ?_ fun digits _ => FailsOnly.bind ?_ fun slider _ => ?_
          · exact (defaultInteger_refuses _).mono fun _ refuses =>
              refuses.among List.mem_cons_self
          · exact (sliderShown_refuses shape).mono fun _ refuses =>
              refuses.subset (List.subset_cons_self _ _)
          · exact orderedAdjustment_refuses _ _ _ _
        exact .inl ((others fault failed).of_sequence listed fun _ => List.mem_append_right _)

theorem defaultBrush_of_sequence {name opacity spacing paintMode : Datum}
    (listed : default.sequence? = some [name, opacity, spacing, paintMode]) :
    defaultBrush default = do
      let name ← defaultText name
      let opacity ← defaultNumber opacity
      let spacing ← defaultInteger spacing
      let paintMode ← defaultInteger paintMode
      return brush name (.real opacity) (.int spacing) (.int paintMode) := by
  rw [defaultBrush, expectSequence_of_mem listed (List.mem_singleton_self 4)]
  rfl

theorem defaultBrush_eq_ok_iff :
    defaultBrush default = .ok payload ↔ Accepts types .brush default payload := by
  constructor
  · intro read
    obtain ⟨items, expected, _⟩ := (Except.bind_eq_ok _ _ _).mp read
    obtain ⟨listed, four⟩ := (expectSequence_eq_ok_iff _ _ _).mp expected
    obtain ⟨name, opacity, spacing, paintMode, rfl⟩ :=
      List.length_eq_four.mp (List.mem_singleton.mp four)
    rw [defaultBrush_of_sequence listed] at read
    obtain ⟨words, readName, read⟩ := (Except.bind_eq_ok _ _ _).mp read
    obtain ⟨number, numbered, read⟩ := (Except.bind_eq_ok _ _ _).mp read
    obtain ⟨spaces, readSpacing, read⟩ := (Except.bind_eq_ok _ _ _).mp read
    obtain ⟨mode, readMode, same⟩ := (Except.bind_eq_ok _ _ _).mp read
    cases same
    obtain ⟨rfl, typed⟩ := (defaultText_eq_ok_iff _ _).mp readName
    cases (defaultInteger_eq_ok_iff _ _).mp readSpacing
    cases (defaultInteger_eq_ok_iff _ _).mp readMode
    exact .brush listed typed ((defaultNumber_eq_ok_iff _ _).mp numbered)
  · intro accepts
    cases accepts with
    | brush listed typed number =>
        rw [defaultBrush_of_sequence listed, (defaultText_eq_ok_iff _ _).mpr ⟨rfl, typed⟩]
        change defaultNumber _ >>= _ = _
        rw [(defaultNumber_eq_ok_iff _ _).mpr number]
        rfl

theorem defaultBrush_eq_error {fault : Fault} (failed : defaultBrush default = .error fault) :
    fault.Refuses [default] ∨ fault = .intTooLarge ∧ Oversized .brush default := by
  cases expected : expectSequence [4] default with
  | error cause =>
      rw [defaultBrush, expected] at failed
      cases failed
      exact .inl (expectSequence_refuses _ _ _ expected)
  | ok items =>
      obtain ⟨listed, four⟩ := (expectSequence_eq_ok_iff _ _ _).mp expected
      obtain ⟨name, opacity, spacing, paintMode, rfl⟩ :=
        List.length_eq_four.mp (List.mem_singleton.mp four)
      have within {part : Datum} (member : part ∈ [name, opacity, spacing, paintMode])
          {fault : Fault} (refuses : fault.Refuses [part]) : fault.Refuses [default] :=
        refuses.of_sequence listed fun _ same => List.mem_singleton.mp same ▸ member
      rw [defaultBrush_of_sequence listed] at failed
      rcases (Except.bind_eq_error _ _ _).mp failed with failed | ⟨words, readName, later⟩
      · exact .inl (within (by simp) (defaultText_refuses _ _ failed))
      obtain ⟨rfl, typed⟩ := (defaultText_eq_ok_iff _ _).mp readName
      rcases (Except.bind_eq_error _ _ _).mp later with failed | ⟨number, _, failed⟩
      · exact (defaultNumber_eq_error failed).imp (within (by simp)) fun ⟨same, beyond⟩ =>
          ⟨same, .brush listed typed beyond⟩
      · refine .inl (FailsOnly.bind ?_ (fun _ _ => FailsOnly.bind ?_ fun _ _ => ?_) _ failed)
        · exact (defaultInteger_refuses spacing).mono fun _ => within (by simp)
        · exact (defaultInteger_refuses paintMode).mono fun _ => within (by simp)
        · exact failsOnly_ok _

/-! Options and enumerations. -/

theorem requiredTexts_eq_ok_iff (items : List Datum) (labels : List String) :
    items.mapM requiredText = .ok labels ↔ items = labels.map .text := by
  simp only [mapM_eq_ok_iff, requiredText_eq_ok_iff]
  rw [← List.forall₂_eq_eq_eq, List.forall₂_map_right_iff]

theorem defaultOption_eq_ok_iff :
    defaultOption default = .ok payload ↔ Accepts types .option default payload := by
  constructor
  · intro read
    unfold defaultOption at read
    split at read
    next first rest listed =>
      obtain ⟨labels, texts, made⟩ := (Except.bind_eq_ok _ _ _).mp read
      have items := (requiredTexts_eq_ok_iff _ _).mp texts
      obtain ⟨position, selects, _, rfl⟩ := makeOption_eq_ok made
      cases Int.ofNat_inj.mp selects
      refine .option (listed.trans (congrArg some items)) ?_
      rintro rfl
      cases items
    next => cases read
  · intro accepts
    cases accepts with
    | option listed any =>
        rename_i labels
        cases labels with
        | nil => exact absurd rfl any
        | cons first rest =>
            rw [List.map_cons] at listed
            rw [defaultOption, listed]
            change List.mapM requiredText ((first :: rest).map .text) >>= _ = _
            rw [(requiredTexts_eq_ok_iff _ _).mpr rfl]
            exact makeOption_of_lt (Nat.succ_pos _)

theorem requiredTexts_refuses (items : List Datum) :
    FailsOnly (Fault.Refuses items) (items.mapM requiredText) := by
  intro fault failed
  obtain ⟨_, item, _, rfl, _, failed⟩ := (mapM_eq_error_iff _ _ _).mp failed
  exact (requiredText_refuses item fault failed).among (by simp)

theorem defaultOption_refuses (default : Datum) :
    FailsOnly (Fault.Refuses [default]) (defaultOption default) := by
  unfold defaultOption
  split
  next first rest listed =>
    refine FailsOnly.bind ?_ fun labels texts => ?_
    · exact (requiredTexts_refuses _).mono fun _ refuses => refuses.of_sequence listed fun _ => id
    · -- There is a first label, which can be selected.
      have any : 0 < (labels.map Datum.text).length := by
        rw [← (requiredTexts_eq_ok_iff _ _).mp texts]
        exact Nat.succ_pos _
      have made : makeOption (labels.map .text) 0 = .ok (option (labels.map .text) 0) :=
        makeOption_of_lt any
      rw [made]
      exact failsOnly_ok _
  next => exact failsOnly_error (Fault.refuses_of_eq (.inr rfl) nofun rfl)

/-- The enumeration with a name and a nickname. -/
def namedEnum (types : EnumTypes) (typeName nick : String) : Except Fault Payload := do
  if ← types.contains (.text typeName) then
    let index ← types.indexOf (.text typeName) (.text nick)
    makeEnum types (.text typeName) (.int index)
  else throw (.unknownEnumDefault typeName)

theorem defaultEnum_of_sequence {typeName nick : Datum}
    (listed : default.sequence? = some [typeName, nick]) :
    defaultEnum types default =
      requiredText typeName >>= fun typeName => requiredText nick >>= namedEnum types typeName := by
  rw [defaultEnum, expectSequence_of_mem listed (List.mem_singleton_self 2)]
  rfl

theorem namedEnum_of_unknown {typeName : String} (nick : String)
    (unknown : types.nicks? (.text typeName) = .ok none) :
    namedEnum types typeName nick = .error (.unknownEnumDefault typeName) := by
  rw [namedEnum, EnumTypes.contains, unknown]
  rfl

theorem indexOf_of_known {typeName : String} {nicks : List String} (nick : String)
    (known : types.nicks? (.text typeName) = .ok (some nicks)) :
    types.indexOf (.text typeName) (.text nick) =
      match nicks.findIdx? (· == nick) with
      | some index => .ok index
      | none => .error (.notEnumValue (.text nick) (.text typeName) nicks) := by
  have swapped : (fun word => Datum.equalsText word (.text nick)) = (· == nick) := by
    funext word
    exact BEq.comm
  rw [EnumTypes.indexOf, EnumTypes.nicks, known]
  change (match nicks.findIdx? fun word => Datum.equalsText word (.text nick) with
    | some index => pure index
    | none => throw _) = _
  rw [swapped]
  cases nicks.findIdx? (· == nick) <;> rfl

theorem lt_of_findIdx? {nicks : List String} {nick : String} {index : Nat}
    (first : nicks.findIdx? (· == nick) = some index) : index < nicks.length :=
  (List.findIdx?_eq_some_iff_getElem.mp first).1

theorem namedEnum_of_known {typeName : String} {nicks : List String} (nick : String)
    (known : types.nicks? (.text typeName) = .ok (some nicks)) :
    namedEnum types typeName nick =
      match nicks.findIdx? (· == nick) with
      | some index => .ok (enum (.text typeName) index)
      | none => .error (.notEnumValue (.text nick) (.text typeName) nicks) := by
  rw [namedEnum, EnumTypes.contains, known]
  change types.indexOf (.text typeName) (.text nick) >>= _ = _
  rw [indexOf_of_known nick known]
  cases first : nicks.findIdx? (· == nick) with
  | none => rfl
  | some index => exact makeEnum_of_lt known (lt_of_findIdx? first)

theorem namedEnum_eq_ok_iff {typeName nick : String} :
    namedEnum types typeName nick = .ok payload ↔
      ∃ nicks index, types.nicks? (.text typeName) = .ok (some nicks) ∧
        nicks.findIdx? (· == nick) = some index ∧ payload = enum (.text typeName) index := by
  cases found : types.entries.lookup (.text typeName) with
  | none =>
      have unknown : types.nicks? (.text typeName) = .ok none := congrArg Except.ok found
      rw [namedEnum_of_unknown nick unknown, unknown]
      simp
  | some nicks =>
      have known : types.nicks? (.text typeName) = .ok (some nicks) := congrArg Except.ok found
      rw [namedEnum_of_known nick known, known]
      cases first : nicks.findIdx? (· == nick) with
      | none =>
          constructor
          · rintro ⟨⟩
          · rintro ⟨_, index, ⟨⟩, found, _⟩
            rw [first] at found
            cases found
      | some index =>
          constructor
          · rintro ⟨⟩
            exact ⟨nicks, index, rfl, first, rfl⟩
          · rintro ⟨_, found, ⟨⟩, same, rfl⟩
            rw [first] at same
            cases same
            rfl

theorem namedEnum_refuses (values : List Datum) (typeName nick : String) :
    FailsOnly (Fault.Refuses values) (namedEnum types typeName nick) := by
  cases found : types.entries.lookup (.text typeName) with
  | none =>
      rw [namedEnum_of_unknown nick (congrArg Except.ok found)]
      exact failsOnly_error (Fault.refuses_of_nil (.inr rfl) nofun rfl)
  | some nicks =>
      rw [namedEnum_of_known nick (congrArg Except.ok found)]
      split
      · exact failsOnly_ok _
      · refine failsOnly_error (Fault.refuses_of_shown (.inr rfl) nofun fun value member => ?_)
        -- Texts can always be written out.
        rcases List.mem_pair.mp member with rfl | rfl <;> exact absurd (Datum.unshown?_text _)

theorem defaultEnum_eq_ok_iff :
    defaultEnum types default = .ok payload ↔ Accepts types .enum default payload := by
  constructor
  · intro read
    obtain ⟨items, expected, _⟩ := (Except.bind_eq_ok _ _ _).mp read
    obtain ⟨listed, two⟩ := (expectSequence_eq_ok_iff _ _ _).mp expected
    obtain ⟨typeName, nick, rfl⟩ := List.length_eq_two.mp (List.mem_singleton.mp two)
    rw [defaultEnum_of_sequence listed] at read
    obtain ⟨name, readName, rest⟩ := (Except.bind_eq_ok _ _ _).mp read
    obtain ⟨word, readNick, named⟩ := (Except.bind_eq_ok _ _ _).mp rest
    obtain ⟨nicks, index, known, first, rfl⟩ := namedEnum_eq_ok_iff.mp named
    rw [(requiredText_eq_ok_iff _ _).mp readName, (requiredText_eq_ok_iff _ _).mp readNick]
      at listed
    exact .enum listed known first
  · intro accepts
    cases accepts with
    | enum listed known first =>
        rw [defaultEnum_of_sequence listed]
        exact namedEnum_eq_ok_iff.mpr ⟨_, _, known, first, rfl⟩

theorem defaultEnum_refuses (default : Datum) :
    FailsOnly (Fault.Refuses [default]) (defaultEnum types default) := by
  refine (expectSequence_refuses [2] default).bind fun items expected => ?_
  obtain ⟨listed, two⟩ := (expectSequence_eq_ok_iff _ _ _).mp expected
  obtain ⟨typeName, nick, rfl⟩ := List.length_eq_two.mp (List.mem_singleton.mp two)
  have within {part : Datum} (member : part ∈ [typeName, nick]) :
      FailsOnly (Fault.Refuses [default]) (requiredText part) :=
    (requiredText_refuses part).mono fun _ refuses =>
      refuses.of_sequence listed fun _ same => List.mem_singleton.mp same ▸ member
  refine (within (by simp)).bind fun name _ => ?_
  exact (within (by simp)).bind fun word _ => namedEnum_refuses _ name word

/-! All forms. -/

/-- What is read as a default is what the form of payload accepts. -/
theorem ofDefault_eq_ok_iff (kind : ArgKind) :
    ofDefault types kind default = .ok payload ↔
      Accepts types kind.payloadKind default payload := by
  unfold ofDefault
  cases kind.payloadKind with
  | itemId =>
      rw [Except.bind_eq_ok]
      constructor
      · rintro ⟨id, read, ⟨⟩⟩
        exact (defaultItemId_eq_ok_iff id).mp read
      · intro accepts
        obtain ⟨id, rfl⟩ : ∃ id, payload = itemId (.int id) := by
          cases accepts <;> exact ⟨_, rfl⟩
        exact ⟨id, (defaultItemId_eq_ok_iff id).mpr accepts, rfl⟩
  | color =>
      rw [Except.bind_eq_ok]
      constructor
      · rintro ⟨shade, read, ⟨⟩⟩
        exact (defaultColor_eq_ok_iff shade).mp read
      · intro accepts
        obtain ⟨shade, rfl⟩ : ∃ shade, payload = color (.color shade) := by
          cases accepts <;> exact ⟨_, rfl⟩
        exact ⟨shade, (defaultColor_eq_ok_iff shade).mpr accepts, rfl⟩
  | toggle =>
      rw [Except.bind_eq_ok]
      constructor
      · rintro ⟨active, read, ⟨⟩⟩
        exact (defaultToggle_eq_ok_iff active).mp read
      · intro accepts
        obtain ⟨active, rfl⟩ : ∃ active, payload = toggle (.bool active) := by
          cases accepts <;> exact ⟨_, rfl⟩
        exact ⟨active, (defaultToggle_eq_ok_iff active).mpr accepts, rfl⟩
  | adjustment => exact defaultAdjustment_eq_ok_iff
  | brush => exact defaultBrush_eq_ok_iff
  | option => exact defaultOption_eq_ok_iff
  | enum => exact defaultEnum_eq_ok_iff
  | _ =>
      simp only [Except.bind_eq_ok, defaultText_eq_ok_iff]
      constructor
      · rintro ⟨words, ⟨rfl, typed⟩, ⟨⟩⟩
        first | exact .rawText typed | exact .text typed | exact .file typed | exact .resource typed
      · intro accepts
        cases accepts
        next typed => exact ⟨default, ⟨rfl, typed⟩, rfl⟩

/-- A default that is not accepted is refused, or it has an integer that no number is near to. -/
theorem ofDefault_eq_error (kind : ArgKind) {fault : Fault}
    (failed : ofDefault types kind default = .error fault) :
    fault.Refuses [default] ∨ fault = .intTooLarge ∧ Oversized kind.payloadKind default := by
  unfold ofDefault at failed
  cases form : kind.payloadKind with
  | itemId =>
      rw [form] at failed
      exact .inl (((defaultItemId_refuses default).bind fun _ _ => failsOnly_ok _) _ failed)
  | color =>
      rw [form] at failed
      exact .inl (((defaultColor_refuses default).bind fun _ _ => failsOnly_ok _) _ failed)
  | toggle =>
      rw [form] at failed
      exact .inl (((defaultToggle_refuses default).bind fun _ _ => failsOnly_ok _) _ failed)
  | adjustment =>
      rw [form] at failed
      exact defaultAdjustment_eq_error failed
  | brush =>
      rw [form] at failed
      exact defaultBrush_eq_error failed
  | option =>
      rw [form] at failed
      exact .inl (defaultOption_refuses default _ failed)
  | enum =>
      rw [form] at failed
      exact .inl (defaultEnum_refuses default _ failed)
  | _ =>
      rw [form] at failed
      exact .inl (((defaultText_refuses default).bind fun _ _ => failsOnly_ok _) _ failed)

theorem ofDefault_of_oversized (kind : ArgKind) (oversized : Oversized kind.payloadKind default) :
    ofDefault types kind default = .error .intTooLarge := by
  unfold ofDefault
  cases form : kind.payloadKind with
  | adjustment =>
      rw [form] at oversized
      cases oversized with
      | adjustment listed five atMost beyond =>
          change defaultAdjustment default = _
          rw [defaultAdjustment_of_sequence listed five atMost, defaultNumbers_of_beyond beyond]
          rfl
  | brush =>
      rw [form] at oversized
      cases oversized with
      | brush listed typed beyond =>
          change defaultBrush default = _
          rw [defaultBrush_of_sequence listed, (defaultText_eq_ok_iff _ _).mpr ⟨rfl, typed⟩]
          change defaultNumber _ >>= _ = _
          rw [defaultNumber_of_beyond beyond]
          rfl
  | _ =>
      rw [form] at oversized
      cases oversized

/-! What has been accepted. -/

theorem kind_of_accepts {form : PayloadKind} (accepts : Accepts types form default payload) :
    payload.kind = form := by
  cases accepts <;> rfl

/-- What has been accepted is copied as it is. -/
theorem copy_of_accepts {form : PayloadKind} (accepts : Accepts types form default payload) :
    payload.copy types = .ok payload := by
  cases accepts with
  | option listed any =>
      refine makeOption_of_lt ?_
      rw [List.length_map]
      exact List.length_pos_of_ne_nil any
  | enum listed known first => exact makeEnum_of_lt known (lt_of_findIdx? first)
  | _ => rfl

theorem wellTyped_of_accepts {form : PayloadKind} (accepts : Accepts types form default payload) :
    payload.wellTyped = true := by
  cases accepts with
  | rawText typed => exact typed
  | text typed => exact typed
  | file typed => exact typed
  | resource typed => exact typed
  | brush listed typed number =>
      simp only [wellTyped, typed]
      rfl
  | option listed any =>
      rw [wellTyped, List.all_map, List.all_eq_true]
      exact fun _ _ => rfl
  | _ => rfl

end

end Payload

end ScriptCatalog
