import Mathlib.Data.List.Nodup
import ScriptCatalog.Proofs.Number.Placed
import ScriptCatalog.Proofs.Procedure.Exported

/-! Finding the parameters of a procedure by their names. A number after a separator that no base
has can be told from the base, so that the names of one type differ by their numbers, and those of
two types by their bases. -/

namespace ScriptCatalog

section

variable [Platform]

/-! Numbered texts. -/

/-- What a number adds to a base. -/
def numberedEnd (mark : Char) (count : Nat) : List Char :=
  if count = 1 then [] else mark :: Nat.toDigits 10 count

section

variable {separator : String} {mark : Char}

theorem toList_numbered (single : separator.toList = [mark]) (base : String) (count : Nat) :
    (numbered separator base count).toList = base.toList ++ numberedEnd mark count := by
  unfold numbered numberedEnd
  by_cases first : count = 1
  · simp only [if_pos first, List.append_nil]
  · simp only [if_neg first, String.toList_append, single]
    rw [show (toString count).toList = Nat.toDigits 10 count from Nat.toList_repr,
      List.append_assoc, List.singleton_append]

theorem takeWhile_numberedEnd (mark : Char) (count : Nat) :
    (numberedEnd mark count).takeWhile (· != mark) = [] := by
  unfold numberedEnd
  split
  · rfl
  · rw [List.takeWhile_cons_of_neg (by simp)]

theorem numberedEnd_inj {count number : Nat}
    (same : numberedEnd mark count = numberedEnd mark number) : count = number := by
  unfold numberedEnd at same
  split at same <;> split at same
  · omega
  · cases same
  · cases same
  · have digits := (List.cons.inj same).2
    calc
      count = Nat.ofDigitChars 10 (Nat.toDigits 10 count) 0 := by simp
      _ = Nat.ofDigitChars 10 (Nat.toDigits 10 number) 0 := by rw [digits]
      _ = number := by simp

/-- The base of a numbered text ends where its number is set off. -/
theorem takeWhile_numbered (single : separator.toList = [mark]) {base : String}
    (plain : mark ∉ base.toList) (count : Nat) :
    (numbered separator base count).toList.takeWhile (· != mark) = base.toList := by
  have unmarked : ∀ c ∈ base.toList, (c != mark) = true := by
    intro c member
    rw [bne_iff_ne]
    rintro rfl
    exact plain member
  rw [toList_numbered single, List.takeWhile_append_of_pos unmarked, takeWhile_numberedEnd,
    List.append_nil]

theorem numbered_inj (single : separator.toList = [mark]) {base other : String}
    (plain : mark ∉ base.toList) (otherPlain : mark ∉ other.toList) {count number : Nat}
    (same : numbered separator base count = numbered separator other number) :
    base = other ∧ count = number := by
  have bases : base.toList = other.toList := by
    rw [← takeWhile_numbered single plain count, same, takeWhile_numbered single otherPlain]
  have ends : base.toList ++ numberedEnd mark count = base.toList ++ numberedEnd mark number := by
    rw [← toList_numbered single, same, toList_numbered single, bases]
  exact ⟨String.toList_inj.mp bases, numberedEnd_inj (List.append_cancel_left ends)⟩

end

theorem numbered_one (separator base : String) : numbered separator base 1 = base := by
  rw [numbered, if_pos rfl]

theorem numbered_of_two_le (separator base : String) {count : Nat} (later : 2 ≤ count) :
    numbered separator base count = base ++ separator ++ toString count := by
  rw [numbered, if_neg (by omega)]

/-! Names and nicknames of argument types. -/

namespace ArgKind

theorem paramName_plain (kind : ArgKind) : '-' ∉ kind.paramName.toList := by
  cases kind <;> decide

theorem paramNick_plain (kind : ArgKind) : ' ' ∉ kind.paramNick.toList := by
  cases kind <;> decide

theorem paramName_injective : Function.Injective paramName := by
  have distinct : (all.map paramName).Nodup := by decide +kernel
  exact fun kind other => List.inj_on_of_nodup_map distinct (mem_all kind) (mem_all other)

theorem paramNick_injective : Function.Injective paramNick := by
  have distinct : (all.map paramNick).Nodup := by decide +kernel
  exact fun kind other => List.inj_on_of_nodup_map distinct (mem_all kind) (mem_all other)

/-- How many of several types, up to and with the one at an index, are a given type. -/
def occurrences (kinds : List ArgKind) (index : Nat) (kind : ArgKind) : Nat :=
  (kinds.take (index + 1)).count kind

theorem occurrences_lt {kinds : List ArgKind} {index later : Nat} {kind : ArgKind}
    (before : index < later) (there : kinds[later]? = some kind) :
    occurrences kinds index kind < occurrences kinds later kind := by
  have upTo : (kinds.take (index + 1)).count kind ≤ (kinds.take later).count kind :=
    (List.take_sublist_take_left before).count_le kind
  have next : (kinds.take (later + 1)).count kind = (kinds.take later).count kind + 1 := by
    rw [List.take_add_one, there, List.count_append]
    simp only [Option.toList_some, List.count_singleton_self]
  unfold occurrences
  omega

/-- The name and the nickname of the parameter for an argument type that occurs once more. -/
def naming (kind : ArgKind) (count : Nat) : String × String :=
  (numbered "-" kind.paramName count, numbered " " kind.paramNick count)

end ArgKind

theorem parameterNamesAfter_getElem? (before kinds : List ArgKind) (index : Nat) :
    (parameterNamesAfter before kinds)[index]? =
      kinds[index]?.map fun kind =>
        kind.naming (before.count kind + ArgKind.occurrences kinds index kind) := by
  induction kinds generalizing before index with
  | nil => rfl
  | cons first rest ih =>
      cases index with
      | zero =>
          simp [parameterNamesAfter, ArgKind.naming, ArgKind.occurrences]
      | succ index =>
          rw [parameterNamesAfter, List.getElem?_cons_succ, ih, List.getElem?_cons_succ]
          congr 1
          funext kind
          unfold ArgKind.occurrences
          rw [List.take_succ_cons, List.count_cons, List.count_cons]
          congr 1
          omega

theorem uniqueParameterNames_getElem? (kinds : List ArgKind) (index : Nat) :
    (uniqueParameterNames kinds)[index]? =
      kinds[index]?.map fun kind => kind.naming (ArgKind.occurrences kinds index kind) := by
  rw [uniqueParameterNames, parameterNamesAfter_getElem?]
  simp only [List.count_nil, Nat.zero_add]

theorem length_parameterNamesAfter (before kinds : List ArgKind) :
    (parameterNamesAfter before kinds).length = kinds.length := by
  induction kinds generalizing before with
  | nil => rfl
  | cons first rest ih => rw [parameterNamesAfter, List.length_cons, ih, List.length_cons]

theorem parameterNamesAfter_take (before kinds : List ArgKind) (count : Nat) :
    parameterNamesAfter before (kinds.take count) =
      (parameterNamesAfter before kinds).take count := by
  induction kinds generalizing before count with
  | nil => simp [parameterNamesAfter]
  | cons first rest ih =>
      cases count with
      | zero => rfl
      | succ count =>
          rw [List.take_succ_cons, parameterNamesAfter, parameterNamesAfter, ih,
            List.take_succ_cons]

/-- What parameters are called in one of two ways is pairwise distinct, and distinct from a text
that begins like none of the bases. -/
theorem nodup_uniqueParameterNames {pick : String × String → String} {separator : String}
    {base : ArgKind → String}
    (picks : ∀ kind count, pick (kind.naming count) = numbered separator (base kind) count)
    {mark : Char} (single : separator.toList = [mark]) (plain : ∀ kind, mark ∉ (base kind).toList)
    (injective : Function.Injective base) {reserved : String}
    (apart : ∀ kind, reserved.toList.takeWhile (· != mark) ≠ (base kind).toList)
    (kinds : List ArgKind) : (reserved :: (uniqueParameterNames kinds).map pick).Nodup := by
  have each (index : Nat) (text : String)
      (there : ((uniqueParameterNames kinds).map pick)[index]? = some text) :
      ∃ kind, kinds[index]? = some kind ∧
        text = numbered separator (base kind) (ArgKind.occurrences kinds index kind) := by
    rw [List.getElem?_map, uniqueParameterNames_getElem?, Option.map_map,
      Option.map_eq_some_iff] at there
    obtain ⟨kind, found, rfl⟩ := there
    exact ⟨kind, found, picks kind _⟩
  refine List.nodup_cons.mpr ⟨?_, ?_⟩
  · intro member
    obtain ⟨index, there⟩ := List.mem_iff_getElem?.mp member
    obtain ⟨kind, _, rfl⟩ := each index reserved there
    exact apart kind (takeWhile_numbered single (plain kind) _)
  · rw [List.nodup_iff_getElem?_ne_getElem?]
    intro index later before inside same
    have there := List.getElem?_eq_getElem inside
    rw [there] at same
    -- Two texts that are the same have the same base and hence the same type, of which there is one
    -- more up to the later index.
    obtain ⟨kind, _, first⟩ := each index _ same
    obtain ⟨other, found, second⟩ := each later _ there
    obtain ⟨bases, counts⟩ :=
      numbered_inj single (plain kind) (plain other) (first.symm.trans second)
    obtain rfl := injective bases
    exact Nat.ne_of_lt (ArgKind.occurrences_lt before found) counts

/-! Parameters. -/

/-- Whether the finite numbers are those from one number up to another. -/
structure Binary64.Spans (least most : Binary64) : Prop where
  finite : least.isFinite = true ∧ most.isFinite = true
  between : ∀ number : Binary64, number.isFinite = true →
    number.less least = false ∧ most.less number = false

theorem spans_extremeReal : (extremeReal true).Spans (extremeReal false) where
  finite := ⟨rfl, rfl⟩
  between number finite := by
    cases number with
    | nan => cases finite
    | infinite => cases finite
    | finite negative exponent fraction =>
        have inside := Binary64.units_le exponent fraction
        have extreme : Binary64.units (Fin.last 2046) ⟨4503599627370495, by decide⟩ =
            (2 ^ 53 - 1) * 2 ^ 2045 := by decide +kernel
        simp only [extremeReal, Binary64.less, Binary64.position, Binary64.signed, extreme]
        generalize Binary64.units exponent fraction = size at inside ⊢
        generalize (2 ^ 53 - 1) * 2 ^ 2045 = largest at inside ⊢
        cases negative <;> simp <;> omega

namespace ProcedureParameter

@[simp]
theorem ofArgument_name (argument : Argument) (name nick : String) :
    (ofArgument argument name nick).name = name := by
  unfold ofArgument
  split <;> rfl

@[simp]
theorem ofArgument_nick (argument : Argument) (name nick : String) :
    (ofArgument argument name nick).nick = nick := by
  unfold ofArgument
  split <;> rfl

/-- What a parameter says about the argument that it stands for: the type of what hosts pass for it,
where that starts and ends, and what else is taken. -/
structure Describes (parameter : ProcedureParameter) (argument : Argument) : Prop where
  blurb : parameter.blurb = argument.label
  item : argument.kind.isItem = true → parameter.type.name = argument.kind.paramName
  color : argument.kind = .color → parameter.type = .rgb
  toggle : argument.kind = .toggle →
    parameter.type = .boolean ∧ parameter.default = some (.bool false)
  text : argument.kind.payloadKind ∈ [.rawText, .text, .file, .resource, .brush] →
    parameter.type = .string
  adjustment : argument.kind = .adjustment →
    parameter.type = .double ∧ parameter.default = some (.real .zero) ∧
      ∃ least most : Binary64, parameter.minimum = some (.real least) ∧
        parameter.maximum = some (.real most) ∧ least.Spans most
  choice : argument.kind = .option ∨ argument.kind = .enum →
    parameter.type = .int ∧ parameter.default = some (.int 0) ∧
      parameter.minimum = some (.int (-2 ^ 31)) ∧ parameter.maximum = some (.int (2 ^ 31 - 1))
  noDefault : argument.kind ∉ [.toggle, .adjustment, .option, .enum] → parameter.default = none
  unbounded : argument.kind ∉ [.adjustment, .option, .enum] →
    parameter.minimum = none ∧ parameter.maximum = none
  noneAllowed : parameter.noneAllowed = argument.kind.isItem
  unchecked : parameter.unchecked = true ↔ argument.kind = .filename ∨ argument.kind = .dirname

theorem describes_ofArgument (argument : Argument) (name nick : String) :
    (ofArgument argument name nick).Describes argument := by
  obtain ⟨kind, label, default, value⟩ := argument
  constructor
  case blurb => cases kind <;> rfl
  case item => cases kind <;> first | exact fun _ => rfl | exact nofun
  case color => rintro ⟨⟩; rfl
  case toggle => rintro ⟨⟩; exact ⟨rfl, rfl⟩
  case text =>
    intro among
    dsimp only at among
    cases kind <;> first | rfl | exact absurd among (by decide)
  case adjustment => rintro ⟨⟩; exact ⟨rfl, rfl, _, _, rfl, rfl, spans_extremeReal⟩
  case choice => rintro (⟨⟨⟩⟩ | ⟨⟨⟩⟩) <;> exact ⟨rfl, rfl, rfl, rfl⟩
  case noDefault =>
    intro apart
    dsimp only at apart
    cases kind <;> first | rfl | exact absurd (by decide) apart
  case unbounded =>
    intro apart
    dsimp only at apart
    cases kind <;> first | exact ⟨rfl, rfl⟩ | exact absurd (by decide) apart
  case noneAllowed => cases kind <;> rfl
  case unchecked => cases kind <;> simp [ofArgument, plain]

/-- The parameter for the argument at an index. -/
def atIndex (arguments : List Argument) (index : Nat) (argument : Argument) :
    ProcedureParameter :=
  let naming := argument.kind.naming
    (ArgKind.occurrences (arguments.map (·.kind)) index argument.kind)
  ofArgument argument naming.1 naming.2

end ProcedureParameter

namespace Procedure

/-- The parameters of a procedure stand for the run mode and, in order, for several arguments;
each is named for the type of its argument, no two alike, and is found by its name. -/
structure Addresses (procedure : Procedure) (arguments : List Argument) : Prop where
  length : procedure.parameters.length = arguments.length + 1
  runMode : ∃ parameter, procedure.parameters[0]? = some parameter ∧
    parameter.name = "run-mode" ∧ parameter.nick = "Run mode" ∧
      parameter.blurb = .text "The run mode" ∧ parameter.type = .runMode ∧
        parameter.default = some (.int 0)
  argument : ∀ index argument, arguments[index]? = some argument →
    ∃ parameter, procedure.parameters[index + 1]? = some parameter ∧ parameter.Describes argument
  first : ∀ index argument parameter, arguments[index]? = some argument →
    procedure.parameters[index + 1]? = some parameter →
      ArgKind.occurrences (arguments.map (·.kind)) index argument.kind = 1 →
        parameter.name = argument.kind.paramName ∧ parameter.nick = argument.kind.paramNick
  later : ∀ index argument parameter, arguments[index]? = some argument →
    procedure.parameters[index + 1]? = some parameter →
      ∀ count, ArgKind.occurrences (arguments.map (·.kind)) index argument.kind = count →
        2 ≤ count →
          parameter.name = argument.kind.paramName ++ "-" ++ toString count ∧
            parameter.nick = argument.kind.paramNick ++ " " ++ toString count
  names : procedure.parameterNames.Nodup
  nicks : (procedure.parameters.map (·.nick)).Nodup
  found : ∀ (index : Nat) parameter, procedure.parameters[index]? = some parameter →
    procedure.parameter (.text parameter.name) = .ok parameter

section

variable (kind : ProcedureKind) (profile : Profile) (label : Option Label)
  (arguments : List Argument)

theorem ofScript_getElem? (index : Nat) :
    (ofScript kind profile label arguments).parameters[index + 1]? =
      arguments[index]?.map (.atIndex arguments index) := by
  rw [ofScript, List.getElem?_cons_succ, List.getElem?_zipWith, uniqueParameterNames_getElem?,
    List.getElem?_map]
  cases arguments[index]? with
  | none => rfl
  | some argument => rfl

/-- What parameters are called, in either of two ways. -/
theorem ofScript_texts {text : ProcedureParameter → String} {pick : String × String → String}
    (picks : ∀ argument name nick, text (.ofArgument argument name nick) = pick (name, nick)) :
    (ofScript kind profile label arguments).parameters.map text =
      text .runMode :: (uniqueParameterNames (arguments.map (·.kind))).map pick := by
  refine congrArg (text .runMode :: ·) (List.ext_getElem? fun index => ?_)
  have there := ofScript_getElem? kind profile label arguments index
  rw [ofScript, List.getElem?_cons_succ] at there
  rw [List.getElem?_map, there, List.getElem?_map, uniqueParameterNames_getElem?,
    List.getElem?_map]
  cases arguments[index]? with
  | none => rfl
  | some argument => exact congrArg some (picks argument _ _)

theorem ofScript_parameterNames :
    (ofScript kind profile label arguments).parameterNames =
      "run-mode" :: (uniqueParameterNames (arguments.map (·.kind))).map Prod.fst :=
  ofScript_texts kind profile label arguments fun _ _ _ => ProcedureParameter.ofArgument_name _ _ _

theorem ofScript_parameterNicks :
    (ofScript kind profile label arguments).parameters.map (·.nick) =
      "Run mode" :: (uniqueParameterNames (arguments.map (·.kind))).map Prod.snd :=
  ofScript_texts kind profile label arguments fun _ _ _ => ProcedureParameter.ofArgument_nick _ _ _

theorem ofScript_names : (ofScript kind profile label arguments).parameterNames.Nodup := by
  rw [ofScript_parameterNames]
  refine nodup_uniqueParameterNames (fun _ _ => rfl) rfl ArgKind.paramName_plain
    ArgKind.paramName_injective (fun kind => ?_) _
  cases kind <;> decide

theorem ofScript_nicks :
    ((ofScript kind profile label arguments).parameters.map (·.nick)).Nodup := by
  rw [ofScript_parameterNicks]
  refine nodup_uniqueParameterNames (fun _ _ => rfl) rfl ArgKind.paramNick_plain
    ArgKind.paramNick_injective (fun kind => ?_) _
  cases kind <;> decide

end

/-- The first arguments of a script have the first names of its parameters. -/
theorem ofScript_take (kind lesserKind : ProcedureKind) (profile lesser : Profile)
    (label lesserLabel : Option Label) (arguments : List Argument) (count : Nat) :
    (ofScript lesserKind lesser lesserLabel (arguments.take count)).parameterNames =
      (ofScript kind profile label arguments).parameterNames.take (count + 1) := by
  rw [ofScript_parameterNames, ofScript_parameterNames, List.map_take, uniqueParameterNames,
    parameterNamesAfter_take, List.take_succ_cons, List.map_take]
  rfl

/-- Where no two parameters have the same name, each is the first one with its name. -/
theorem parameter_of_nodup {procedure : Procedure} (names : procedure.parameterNames.Nodup)
    {parameter : ProcedureParameter} (member : parameter ∈ procedure.parameters) :
    procedure.parameter (.text parameter.name) = .ok parameter := by
  have found : procedure.parameters.find? (fun other => parameter.name == other.name) =
      some parameter := by
    cases first : procedure.parameters.find? (fun other => parameter.name == other.name) with
    | none => exact absurd (beq_self_eq_true _) (List.find?_eq_none.mp first parameter member)
    | some other =>
        have same : (parameter.name == other.name) = true := by
          simpa only using List.find?_some first
        rw [List.inj_on_of_nodup_map names member (List.mem_of_find?_eq_some first)
          (eq_of_beq same)]
  unfold Procedure.parameter
  have asked : (fun other : ProcedureParameter =>
      Datum.equalsText other.name (.text parameter.name)) =
        fun other => parameter.name == other.name := rfl
  rw [asked, found]

theorem addresses_ofScript (kind : ProcedureKind) (profile : Profile) (label : Option Label)
    (arguments : List Argument) :
    (ofScript kind profile label arguments).Addresses arguments := by
  have at_index {index : Nat} {argument : Argument} {parameter : ProcedureParameter}
      (there : arguments[index]? = some argument)
      (described : (ofScript kind profile label arguments).parameters[index + 1]? =
        some parameter) : parameter = .atIndex arguments index argument := by
    rw [ofScript_getElem?, there] at described
    exact (Option.some.inj described).symm
  constructor
  case length =>
    rw [ofScript, List.length_cons, List.length_zipWith, uniqueParameterNames,
      length_parameterNamesAfter, List.length_map, Nat.min_self]
  case runMode => exact ⟨.runMode, rfl, rfl, rfl, rfl, rfl, rfl⟩
  case argument =>
    intro index argument there
    refine ⟨.atIndex arguments index argument, ?_, ProcedureParameter.describes_ofArgument ..⟩
    rw [ofScript_getElem?, there]
    rfl
  case first =>
    intro index argument parameter there described once
    rw [at_index there described]
    simp only [ProcedureParameter.atIndex, ProcedureParameter.ofArgument_name,
      ProcedureParameter.ofArgument_nick, ArgKind.naming, once, numbered_one, and_self]
  case later =>
    intro index argument parameter there described count again two
    rw [at_index there described]
    simp only [ProcedureParameter.atIndex, ProcedureParameter.ofArgument_name,
      ProcedureParameter.ofArgument_nick, ArgKind.naming, again, numbered_of_two_le _ _ two,
      and_self]
  case names => exact ofScript_names kind profile label arguments
  case nicks => exact ofScript_nicks kind profile label arguments
  case found =>
    intro index parameter there
    exact parameter_of_nodup (ofScript_names kind profile label arguments)
      (List.mem_of_getElem? there)

end Procedure

/-- The procedure of a complete script, which there is if the script says everything in texts, has
a parameter for the run mode and one for each argument. All of them are found by their names, and
scripts that have the first arguments of another one have the first of its parameter names. -/
theorem Script.parameters_addressed (kind : ProcedureKind) (script : LiveScript)
    (arguments : List Argument) (filled : script.slots = arguments.map some) :
    (script.profile.AllTexts → ∃ procedure,
      Script.procedure kind (.live script) = .ok procedure (.live script)) ∧
    ∀ procedure after, Script.procedure kind (.live script) = .ok procedure after →
      after = .live script ∧ procedure.Addresses arguments ∧
      ∀ (lesserKind : ProcedureKind) (lesser : LiveScript) (count : Nat) (others : Procedure)
        (left : Script), lesser.slots = (arguments.take count).map some →
        Script.procedure lesserKind (.live lesser) = .ok others left →
          others.parameterNames = procedure.parameterNames.take (count + 1) := by
  constructor
  · exact fun texts => ⟨_, procedure_of_texts kind script arguments texts filled⟩
  · intro procedure after ran
    obtain ⟨same, profile, label, rfl⟩ := procedure_eq_ok kind filled ran
    refine ⟨same, Procedure.addresses_ofScript kind profile label arguments, ?_⟩
    intro lesserKind lesser count others left first ranLesser
    obtain ⟨_, other, otherLabel, rfl⟩ := procedure_eq_ok lesserKind first ranLesser
    exact Procedure.ofScript_take kind lesserKind profile other label otherLabel arguments count

end

/-! Two images with a text between them, whose names are told apart by a number. -/

def twoImages : List Argument := [
  { kind := .image, label := .text "Image", default := .itemId (.int (-1))
    value := .itemId (.int (-1)) },
  { kind := .string, label := .text "Text", default := .text (.text "")
    value := .text (.text "") },
  { kind := .image, label := .text "Mask", default := .itemId (.int (-1))
    value := .itemId (.int (-1)) }]

def betweenImages : LiveScript :=
  { profile := .plain "script-fu-mask", slots := twoImages.map some, held := false }

theorem parameters_addressed_twoImages :
    betweenImages.slots = twoImages.map some ∧ betweenImages.profile.AllTexts ∧
      ∃ procedure, Script.procedure .plugin (.live betweenImages) =
          .ok procedure (.live betweenImages) ∧
        procedure.Addresses twoImages ∧
        procedure.parameterNames = ["run-mode", "image", "string", "image-2"] := by
  have texts := Profile.allTexts_plain "script-fu-mask"
  have addressed := Script.parameters_addressed .plugin betweenImages twoImages rfl
  have built := Script.procedure_of_texts .plugin betweenImages twoImages texts rfl
  exact ⟨rfl, texts, _, built, (addressed.2 _ _ built).2.1, by decide +kernel⟩

end ScriptCatalog
