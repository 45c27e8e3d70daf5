import ScriptCatalog.Proofs.Config.Loaded
import ScriptCatalog.Proofs.Fault

/-! Ranges of parameters and of settings. What is accepted is exactly what has the kind of the
parameter and is neither below its minimum nor above its maximum, and a refusal says which of the
two is the matter. What is not a number is neither below nor above anything, so no range keeps it
out, and a limit that is not a number keeps nothing out. A refusal, and any answer about a value
that is not plain, needs the value to be written out. -/

namespace ScriptCatalog

section

variable [Platform]

/-! Numbers in order. -/

namespace Binary64

theorem less_eq_false_iff {left right : Binary64} :
    left.less right = false ↔
      (∃ before after, right.position = some before ∧ left.position = some after ∧
        before ≤ after) ∨ left = nan ∨ right = nan := by
  have placed (number : Binary64) (isNumber : number ≠ nan) :
      ∃ place, number.position = some place := by
    cases number with
    | nan => exact absurd rfl isNumber
    | infinite => exact ⟨_, rfl⟩
    | finite => exact ⟨_, rfl⟩
  by_cases first : left = nan
  · simp [first, less, position]
  by_cases second : right = nan
  · simp [second, less, position]
  obtain ⟨after, here⟩ := placed left first
  obtain ⟨before, there⟩ := placed right second
  simp [less, first, second, here, there]

end Binary64

namespace Scalar

/-- One number is not greater than another of its kind. What is not a number has no place in the
order. -/
inductive AtMost : Scalar → Scalar → Prop
  | int {left right : Int} (order : left ≤ right) : AtMost (.int left) (.int right)
  | real {left right : Binary64} {before after : Int} (first : left.position = some before)
      (second : right.position = some after) (order : before ≤ after) :
      AtMost (.real left) (.real right)

/-- A value is the real number that is not a number. -/
def IsNaN (value : Scalar) : Prop := value = .real .nan

/-- Of two numbers of one kind, the first is less, or the second is not greater, or one of them is
not a number. -/
theorem less_eq_false_iff {left right : Scalar} (same : left.kind = right.kind)
    (numeric : right.kind.isNumeric = true) :
    left.less right = false ↔ right.AtMost left ∨ left.IsNaN ∨ right.IsNaN := by
  cases right with
  | bool right => cases numeric
  | text right => cases numeric
  | int right =>
      cases left with
      | int left =>
          have order : right ≤ left ↔ AtMost (.int right) (.int left) := by
            refine ⟨.int, ?_⟩
            rintro ⟨order⟩
            exact order
          simp [less, IsNaN, ← order]
      | _ => cases same
  | real right =>
      cases left with
      | real left =>
          have order : AtMost (.real right) (.real left) ↔
              ∃ before after, right.position = some before ∧ left.position = some after ∧
                before ≤ after := by
            constructor
            · rintro (_ | ⟨first, second, order⟩)
              exact ⟨_, _, first, second, order⟩
            · rintro ⟨before, after, first, second, order⟩
              exact .real first second order
          simp [less, IsNaN, order, Binary64.less_eq_false_iff]
      | _ => cases same

theorem AtMost.isNumber {left right : Scalar} (order : left.AtMost right) :
    ¬left.IsNaN ∧ ¬right.IsNaN := by
  cases order with
  | int order => exact ⟨nofun, nofun⟩
  | real first second order =>
      constructor
      · rintro ⟨⟩
        cases first
      · rintro ⟨⟩
        cases second

end Scalar

/-! What a parameter accepts. -/

namespace Parameter

variable {parameter : Parameter} {value : Scalar}

/-- A value of the parameter's kind that lies within its range. -/
structure InRange (parameter : Parameter) (value : Scalar) : Prop where
  kind : value.kind = parameter.kind
  minimum : ∀ limit ∈ parameter.minimum, limit.AtMost value
  maximum : ∀ limit ∈ parameter.maximum, value.AtMost limit

/-- A value of the parameter's kind that each limit lets pass: the two are in order, or one of them
is not a number. -/
structure Admits (parameter : Parameter) (value : Scalar) : Prop where
  kind : value.kind = parameter.kind
  minimum : ∀ limit ∈ parameter.minimum, limit.AtMost value ∨ value.IsNaN ∨ limit.IsNaN
  maximum : ∀ limit ∈ parameter.maximum, value.AtMost limit ∨ limit.IsNaN ∨ value.IsNaN

/-- A value would have to be compared with a limit, and one of the two is not a number. -/
def Incomparable (parameter : Parameter) (value : Scalar) : Prop :=
  ∃ limit, (limit ∈ parameter.minimum ∨ limit ∈ parameter.maximum) ∧
    (limit.IsNaN ∨ value.IsNaN)

/-- Only numbers have limits, and those are numbers of their kind. -/
def HasLimits (parameter : Parameter) : Prop :=
  ∀ limit, limit ∈ parameter.minimum ∨ limit ∈ parameter.maximum →
    limit.kind = parameter.kind ∧ parameter.kind.isNumeric = true

/-- Where everything can be compared, what is admitted is what lies within the range. Nothing else
lies within it. -/
theorem inRange_iff : parameter.InRange value ↔
    parameter.Admits value ∧ ¬parameter.Incomparable value := by
  constructor
  · intro inside
    refine ⟨⟨inside.kind, fun limit member => .inl (inside.minimum limit member),
      fun limit member => .inl (inside.maximum limit member)⟩, ?_⟩
    rintro ⟨limit, member | member, neither⟩
    · have numbers := (inside.minimum limit member).isNumber
      exact neither.elim numbers.1 numbers.2
    · have numbers := (inside.maximum limit member).isNumber
      exact neither.elim numbers.2 numbers.1
  · rintro ⟨admits, comparable⟩
    refine ⟨admits.kind, fun limit member => ?_, fun limit member => ?_⟩
    · refine (admits.minimum limit member).resolve_right fun neither => ?_
      exact comparable ⟨limit, .inl member, neither.symm⟩
    · refine (admits.maximum limit member).resolve_right fun neither => ?_
      exact comparable ⟨limit, .inr member, neither⟩

theorem fits_iff_admits (limits : parameter.HasLimits) :
    parameter.fits value = true ↔ parameter.Admits value := by
  have inside : value.kind = parameter.kind → (parameter.outside value = false ↔
      (∀ limit ∈ parameter.minimum, limit.AtMost value ∨ value.IsNaN ∨ limit.IsNaN) ∧
        ∀ limit ∈ parameter.maximum, value.AtMost limit ∨ limit.IsNaN ∨ value.IsNaN) := by
    intro kind
    rw [outside, Bool.or_eq_false_iff, Option.any_eq_false, Option.any_eq_false]
    refine and_congr (forall₂_congr fun limit member => ?_) (forall₂_congr fun limit member => ?_)
    · obtain ⟨same, numeric⟩ := limits limit (.inl member)
      exact Scalar.less_eq_false_iff (kind.trans same.symm) (same ▸ numeric)
    · obtain ⟨same, numeric⟩ := limits limit (.inr member)
      exact Scalar.less_eq_false_iff (same.trans kind.symm) (kind ▸ numeric)
  rw [fits, Bool.and_eq_true, beq_iff_eq, Bool.not_eq_true']
  constructor
  · rintro ⟨kind, within⟩
    exact ⟨kind, ((inside kind).mp within).1, ((inside kind).mp within).2⟩
  · intro admits
    exact ⟨admits.kind, (inside admits.kind).mpr ⟨admits.minimum, admits.maximum⟩⟩

/-- What comes of asking whether a value is valid. A refusal says what is the matter: the kind, or
else the range. A value that is neither plain nor shown gets no answer. -/
inductive Verdict (parameter : Parameter) (value : Datum) : Prop
  | valid {scalar : Scalar} (plain : value.scalar? = some scalar)
      (fits : parameter.fits scalar = true)
      (answer : ∀ strict, parameter.validate value strict = .ok true)
  | wrongKind (kind : ∀ scalar, value.scalar? = some scalar → scalar.kind ≠ parameter.kind)
      (shown : value.scalar? = none → value.unshown? = none)
      (answer : parameter.validate value false = .ok false)
      (refusal : parameter.validate value true =
        .error (.wrongKind parameter.name parameter.kind value))
  | outsideRange {scalar : Scalar} (plain : value.scalar? = some scalar)
      (kind : scalar.kind = parameter.kind) (fits : parameter.fits scalar = false)
      (answer : parameter.validate value false = .ok false)
      (refusal : parameter.validate value true =
        .error (.outsideRange parameter.name scalar parameter.minimum parameter.maximum))
  | unshown {obstacle : Obstacle} (composite : value.scalar? = none)
      (unshown : value.unshown? = some obstacle)
      (failure : ∀ strict, parameter.validate value strict = .error obstacle.fault)

theorem verdict (parameter : Parameter) (value : Datum) : parameter.Verdict value := by
  cases plain : value.scalar? with
  | none =>
      cases unshown : value.unshown? with
      | none =>
          refine .wrongKind ?_ (fun _ => unshown) ?_ ?_
          · rintro scalar given
            cases plain.symm.trans given
          all_goals simp [validate, plain, unshown]
      | some obstacle => exact .unshown plain unshown fun strict => by rw [validate, plain, unshown]
  | some scalar =>
      by_cases kind : scalar.kind = parameter.kind
      · cases outside : parameter.outside scalar with
        | false =>
            refine .valid plain ?_ fun strict => ?_
            · simp [fits, kind, outside]
            · simp [validate, plain, kind, outside]
        | true =>
            refine .outsideRange plain kind ?_ ?_ ?_
            · simp [fits, outside]
            all_goals simp [validate, plain, kind, outside]
      · refine .wrongKind ?_ (fun none => absurd (plain.symm.trans none) (Option.some_ne_none _)) ?_ ?_
        · rintro _ given
          cases plain.symm.trans given
          exact kind
        all_goals simp [validate, plain, kind]

/-- A limit is the plain value that is given for it, which has the kind that it is for. There is
none only if nothing is given. -/
theorem limit_eq_ok {name given : Datum} {kind : ScalarKind} {held : Option Scalar}
    (taken : limit name kind given = .ok held) :
    held = given.scalar? ∧ (held = none ↔ given.isNull = true) ∧
      ∀ limit ∈ held, limit.kind = kind := by
  unfold limit at taken
  split at taken
  next =>
    cases taken
    exact ⟨rfl, ⟨fun _ => rfl, fun _ => rfl⟩, nofun⟩
  next notNull =>
    obtain ⟨limit, plain, taken⟩ := (Except.bind_eq_ok _ _ _).mp taken
    obtain ⟨same, taken⟩ := Except.unless_eq_ok.mp taken
    cases taken
    have null : given.isNull ≠ true := by
      cases given with
      | null => exact absurd rfl notNull
      | _ => nofun
    refine ⟨(ConfigEntry.expectScalar_eq_ok plain).symm, ⟨nofun, fun is => absurd is null⟩, ?_⟩
    rintro _ ⟨⟩
    exact not_not.mp same

/-- A parameter has the default and the limits that it is made of, and its default fits. -/
structure MadeOf (parameter : Parameter) (default minimum maximum : Datum) : Prop where
  default : default.scalar? = some parameter.default
  minimum : parameter.minimum = minimum.scalar? ∧
    (parameter.minimum = none ↔ minimum.isNull = true)
  maximum : parameter.maximum = maximum.scalar? ∧
    (parameter.maximum = none ↔ maximum.isNull = true)
  limits : parameter.HasLimits
  fits : parameter.fits parameter.default = true

theorem madeOf_of_make {name default description minimum maximum : Datum} {parameter : Parameter}
    (made : make name default description minimum maximum = .ok parameter) :
    parameter.MadeOf default minimum maximum := by
  obtain ⟨held, lower, upper, valid, plain, numbers, least, greatest, rfl, checked⟩ :=
    ConfigEntry.make_eq_ok made
  obtain ⟨lowerGiven, noLower, lowerKind⟩ := limit_eq_ok least
  obtain ⟨upperGiven, noUpper, upperKind⟩ := limit_eq_ok greatest
  refine ⟨ConfigEntry.expectScalar_eq_ok plain, ⟨lowerGiven, noLower⟩, ⟨upperGiven, noUpper⟩, ?_,
    ConfigEntry.fits_of_validate_strict (Datum.scalar?_ofScalar held) checked⟩
  rintro limit (member | member)
  · refine ⟨lowerKind limit member, numbers.resolve_left fun none => ?_⟩
    cases (noLower.mpr none.1).symm.trans member
  · refine ⟨upperKind limit member, numbers.resolve_left fun none => ?_⟩
    cases (noUpper.mpr none.2).symm.trans member

/-- What a refusal of a value can show: the name of the parameter, the value and the limits. -/
def shownWith (parameter : Parameter) (given : Datum) : List Datum :=
  parameter.name :: given :: (parameter.minimum.toList ++ parameter.maximum.toList).map .ofScalar

/-- What a parameter answers about a value, plainly and strictly. -/
structure Judges (parameter : Parameter) (given : Datum) : Prop where
  accepts : ∀ strict, parameter.validate given strict = .ok true ↔
    ∃ scalar, given.scalar? = some scalar ∧ parameter.Admits scalar
  rejects : parameter.validate given false = .ok false ↔
    (¬∃ scalar, given.scalar? = some scalar ∧ parameter.Admits scalar) ∧
      (given.scalar? = none → given.unshown? = none)
  fails : ∀ fault, parameter.validate given false = .error fault ↔
    given.scalar? = none ∧ ∃ obstacle, given.unshown? = some obstacle ∧ fault = obstacle.fault
  strict : parameter.validate given true ≠ .ok false
  badType : (∃ fault, parameter.validate given true = .error fault ∧
      fault.raised.kind = .badType) ↔
    (∀ scalar, given.scalar? = some scalar → scalar.kind ≠ parameter.kind) ∧
      parameter.name.unshown? = none ∧ given.unshown? = none
  badValue : (∀ shown ∈ parameter.shownWith given, shown.unshown? = none) →
    ((∃ fault, parameter.validate given true = .error fault ∧ fault.raised.kind = .badValue) ↔
      ∃ scalar, given.scalar? = some scalar ∧ scalar.kind = parameter.kind ∧
        ¬parameter.Admits scalar)
  raised : ∀ fault, parameter.validate given true = .error fault →
    fault.raised.kind = .badType ∨
      fault.raised.kind = .badValue ∧ ((∃ scalar, given.scalar? = some scalar ∧
          scalar.kind = parameter.kind ∧ ¬parameter.Admits scalar) ∨
        ∃ shown ∈ parameter.shownWith given, shown.unshown? = some .tooLong) ∨
      fault.raised = .shownTooDeep ∧
        ∃ shown ∈ parameter.shownWith given, shown.unshown? = some .tooDeep

end Parameter

namespace Parameter

variable {parameter : Parameter}

theorem judges_of_wrongKind {given : Datum}
    (kind : ∀ scalar, given.scalar? = some scalar → scalar.kind ≠ parameter.kind)
    (shown : given.scalar? = none → given.unshown? = none)
    (answer : parameter.validate given false = .ok false)
    (refusal : parameter.validate given true =
      .error (.wrongKind parameter.name parameter.kind given)) : parameter.Judges given := by
  have none : ¬∃ scalar, given.scalar? = some scalar ∧ parameter.Admits scalar := by
    rintro ⟨scalar, plain, admits⟩
    exact kind scalar plain admits.kind
  have noneOfKind : ¬∃ scalar, given.scalar? = some scalar ∧ scalar.kind = parameter.kind ∧
      ¬parameter.Admits scalar := by
    rintro ⟨scalar, plain, same, _⟩
    exact kind scalar plain same
  have raised := Fault.raised_cases (.wrongKind parameter.name parameter.kind given) nofun
  have mentioned : (Fault.wrongKind parameter.name parameter.kind given).shown =
      [parameter.name, given] := rfl
  rw [mentioned] at raised
  refine ⟨?_, ?_, ?_, ?_, ?_, ?_, ?_⟩
  · rintro (_ | _) <;> simp [answer, refusal, none]
  · simpa [answer, none] using shown
  · intro fault
    rw [answer]
    refine ⟨nofun, ?_⟩
    rintro ⟨composite, obstacle, unshown, _⟩
    cases (shown composite).symm.trans unshown
  · simp [refusal]
  · rw [refusal]
    rcases raised with ⟨each, raised⟩ | ⟨value, member, obstacle, unshown, raised⟩
    · have both : parameter.name.unshown? = Option.none ∧ given.unshown? = Option.none :=
        ⟨each _ List.mem_cons_self, each _ (by simp)⟩
      refine ⟨fun _ => ⟨kind, both⟩, fun _ => ⟨_, rfl, ?_⟩⟩
      rw [raised]
      rfl
    · constructor
      · rintro ⟨_, ⟨⟩, badType⟩
        rw [raised] at badType
        cases obstacle <;> cases badType
      · rintro ⟨_, name, value⟩
        simp only [List.mem_cons, List.not_mem_nil, or_false] at member
        rcases member with rfl | rfl
        · cases name.symm.trans unshown
        · cases value.symm.trans unshown
  · intro each
    rw [refusal]
    refine ⟨?_, fun outside => absurd outside noneOfKind⟩
    rintro ⟨_, ⟨⟩, badValue⟩
    rcases raised with ⟨_, raised⟩ | ⟨value, member, obstacle, unshown, _⟩
    · rw [raised] at badValue
      cases badValue
    · have there : value ∈ parameter.shownWith given :=
        List.mem_append_left _ member
      cases (each value there).symm.trans unshown
  · intro fault failed
    cases refusal.symm.trans failed
    rcases raised with ⟨_, raised⟩ | ⟨value, member, obstacle, unshown, raised⟩
    · rw [raised]
      exact .inl rfl
    · rw [raised]
      have there : value ∈ parameter.shownWith given := List.mem_append_left _ member
      cases obstacle with
      | tooLong => exact .inr (.inl ⟨rfl, .inr ⟨value, there, unshown⟩⟩)
      | tooDeep => exact .inr (.inr ⟨rfl, value, there, unshown⟩)

theorem ofScalar_of_scalar? {given : Datum} {scalar : Scalar}
    (plain : given.scalar? = some scalar) : Datum.ofScalar scalar = given := by
  cases given with
  | bool value =>
      cases plain
      rfl
  | int value =>
      cases plain
      rfl
  | real value =>
      cases plain
      rfl
  | text value =>
      cases plain
      rfl
  | _ => cases plain

theorem judges_of_outsideRange {given : Datum} {scalar : Scalar}
    (plain : given.scalar? = some scalar) (kind : scalar.kind = parameter.kind)
    (outside : ¬parameter.Admits scalar)
    (answer : parameter.validate given false = .ok false)
    (refusal : parameter.validate given true =
      .error (.outsideRange parameter.name scalar parameter.minimum parameter.maximum)) :
    parameter.Judges given := by
  have none : ¬∃ other, given.scalar? = some other ∧ parameter.Admits other := by
    rintro ⟨other, again, admits⟩
    cases plain.symm.trans again
    exact outside admits
  have raised := Fault.raised_cases
    (.outsideRange parameter.name scalar parameter.minimum parameter.maximum) nofun
  have mentioned : (Fault.outsideRange parameter.name scalar parameter.minimum
      parameter.maximum).shown = parameter.shownWith given := by
    rw [← ofScalar_of_scalar? plain]
    rfl
  rw [mentioned] at raised
  refine ⟨?_, ?_, ?_, ?_, ?_, ?_, ?_⟩
  · rintro (_ | _) <;> simp [answer, refusal, plain, outside]
  · simp [answer, plain, outside]
  · intro fault
    rw [answer, plain]
    exact ⟨nofun, nofun⟩
  · simp [refusal]
  · rw [refusal]
    constructor
    · rintro ⟨_, ⟨⟩, badType⟩
      rcases raised with ⟨_, raised⟩ | ⟨_, _, obstacle, _, raised⟩
      · rw [raised] at badType
        cases badType
      · rw [raised] at badType
        cases obstacle <;> cases badType
    · rintro ⟨differs, _⟩
      exact absurd kind (differs scalar plain)
  · intro each
    rw [refusal]
    refine ⟨fun _ => ⟨scalar, plain, kind, outside⟩, fun _ => ⟨_, rfl, ?_⟩⟩
    rcases raised with ⟨_, raised⟩ | ⟨value, member, obstacle, unshown, _⟩
    · rw [raised]
      rfl
    · cases (each value member).symm.trans unshown
  · intro fault failed
    cases refusal.symm.trans failed
    rcases raised with ⟨_, raised⟩ | ⟨value, member, obstacle, unshown, raised⟩
    · rw [raised]
      exact .inr (.inl ⟨rfl, .inl ⟨scalar, plain, kind, outside⟩⟩)
    · rw [raised]
      cases obstacle with
      | tooLong => exact .inr (.inl ⟨rfl, .inr ⟨value, member, unshown⟩⟩)
      | tooDeep => exact .inr (.inr ⟨rfl, value, member, unshown⟩)

theorem judges (limits : parameter.HasLimits) (given : Datum) : parameter.Judges given := by
  cases parameter.verdict given with
  | valid plain fits answer =>
      have admits := (fits_iff_admits limits).mp fits
      refine ⟨fun strict => ?_, ?_, fun fault => ?_, ?_, ?_, fun _ => ?_, fun fault failed => ?_⟩
      · simp [answer, plain, admits]
      · simp [answer, plain, admits]
      · simp [answer, plain]
      · simp [answer]
      · simp [answer, plain, admits.kind]
      · simp [answer, plain, admits]
      · cases (answer true).symm.trans failed
  | wrongKind kind shown answer refusal => exact judges_of_wrongKind kind shown answer refusal
  | outsideRange plain kind fits answer refusal =>
      have outside : ¬parameter.Admits _ := fun admits =>
        Bool.false_ne_true (fits.symm.trans ((fits_iff_admits limits).mpr admits))
      exact judges_of_outsideRange plain kind outside answer refusal
  | @unshown obstacle composite unshown failure =>
      refine ⟨fun strict => ?_, ?_, fun fault => ?_, ?_, ?_, fun each => ?_, fun fault failed => ?_⟩
      · simp [failure, composite]
      · simp [failure, composite, unshown]
      · simp [failure, composite, unshown, eq_comm]
      · simp [failure]
      · rw [failure, unshown]
        refine ⟨?_, nofun⟩
        rintro ⟨_, ⟨⟩, badType⟩
        cases obstacle <;> cases badType
      · cases (each given (by simp [shownWith])).symm.trans unshown
      · cases (failure true).symm.trans failed
        have there : given ∈ parameter.shownWith given := by simp [shownWith]
        cases obstacle with
        | tooLong => exact .inr (.inl ⟨rfl, .inr ⟨given, there, unshown⟩⟩)
        | tooDeep => exact .inr (.inr ⟨rfl, given, there, unshown⟩)

end Parameter

/-! Settings that have a parameter. -/

namespace ConfigEntry

variable {parameter : Parameter} {entry : ConfigEntry}

/-- A setting in use: it was made with the default of its parameter, or by a definition, and since
then values have been set, saved ones loaded and the default restored. -/
inductive InUse (parameter : Parameter) : ConfigEntry → Prop
  | made {name default description minimum maximum : Datum}
      (made : Parameter.make name default description minimum maximum = .ok parameter)
      (key : String) (category : Datum) (saved : Bool) :
      InUse parameter ⟨key, parameter, category, saved, parameter.default⟩
  | defined {key : String} {definition : Json} {entry : ConfigEntry}
      (made : ofDefinition key definition = .ok entry) (same : entry.parameter = parameter) :
      InUse parameter entry
  | set {entry changed : ConfigEntry} {value : Datum} {differs : Bool}
      (uses : InUse parameter entry) (given : entry.set value = .ok (changed, differs)) :
      InUse parameter changed
  | loaded {entry changed : ConfigEntry} {value : Json} {rejected : Option Datum}
      (uses : InUse parameter entry) (given : entry.load value = .ok (changed, rejected)) :
      InUse parameter changed
  | restored {entry : ConfigEntry} (uses : InUse parameter entry) :
      InUse parameter entry.restoreDefault

theorem InUse.follows (uses : InUse parameter entry) :
    ∃ definition : ConfigEntry, definition.IsDefined ∧ definition.parameter = parameter ∧
      definition.Follows entry := by
  induction uses with
  | made made key category saved =>
      have fits := (Parameter.madeOf_of_make made).fits
      exact ⟨⟨key, parameter, category, saved, parameter.default⟩, ⟨rfl, fits⟩, rfl, rfl, fits⟩
  | defined made same =>
      have isDefined := (isDefined_of_ofDefinition made).2
      exact ⟨_, isDefined, same, isDefined.follows⟩
  | set _ given ih =>
      obtain ⟨definition, isDefined, same, follows⟩ := ih
      exact ⟨definition, isDefined, same, follows.set given⟩
  | loaded _ given ih =>
      obtain ⟨definition, isDefined, same, follows⟩ := ih
      exact ⟨definition, isDefined, same, follows.load given⟩
  | restored _ ih =>
      obtain ⟨definition, isDefined, same, follows⟩ := ih
      exact ⟨definition, isDefined, same, follows.restoreDefault isDefined⟩

theorem InUse.hasLimits (uses : InUse parameter entry) : parameter.HasLimits := by
  induction uses with
  | made made key category saved => exact (Parameter.madeOf_of_make made).limits
  | defined made same =>
      obtain ⟨_, _, _, _, _, _, _, _, given, rfl⟩ := ofDefinition_eq_ok made
      exact same ▸ (Parameter.madeOf_of_make given).limits
  | set _ _ ih => exact ih
  | loaded _ _ ih => exact ih
  | restored _ ih => exact ih

theorem InUse.admits (uses : InUse parameter entry) :
    entry.parameter = parameter ∧ parameter.Admits entry.value := by
  obtain ⟨definition, _, same, follows⟩ := uses.follows
  exact ⟨follows.parameter.trans same,
    (Parameter.fits_iff_admits uses.hasLimits).mp (same ▸ follows.fits)⟩

end ConfigEntry

/-- A parameter that can be made has the default and the limits that were given. It accepts exactly
what it admits, plainly and strictly alike, and a strict refusal tells another kind from what its
limits keep out, unless what it shows cannot be written out. Its default is among what it admits,
and so is the value of every setting that has it. What it admits is what lies within its range, and
what cannot be compared with its limits. -/
theorem Parameter.ranges_enforced {name default description minimum maximum : Datum}
    {parameter : Parameter}
    (made : Parameter.make name default description minimum maximum = .ok parameter) :
    (default.scalar? = some parameter.default ∧
      (parameter.minimum = minimum.scalar? ∧
        (parameter.minimum = none ↔ minimum.isNull = true)) ∧
      parameter.maximum = maximum.scalar? ∧
        (parameter.maximum = none ↔ maximum.isNull = true)) ∧
    (∀ value, parameter.Judges value) ∧
    (∀ strict, parameter.validate default strict = .ok true) ∧
    (∀ entry, ConfigEntry.InUse parameter entry →
      entry.parameter = parameter ∧ parameter.Admits entry.value) ∧
    ∀ value, parameter.InRange value ↔
      parameter.Admits value ∧ ¬parameter.Incomparable value := by
  have given := madeOf_of_make made
  refine ⟨⟨given.default, given.minimum, given.maximum⟩, judges given.limits, ?_,
    fun entry uses => uses.admits, fun value => inRange_iff⟩
  have admits := (fits_iff_admits given.limits).mp given.fits
  exact fun strict => ((judges given.limits default).accepts strict).mpr ⟨_, given.default, admits⟩

end

theorem Parameter.ranges_enforced_size :
    ∃ parameter, Parameter.make (.text "Size") (.int 5) (.text "") (.int 1) .null = .ok parameter ∧
      parameter.validate (.int 1) true = .ok true ∧ parameter.validate (.int 0) false = .ok false ∧
      (∃ fault, parameter.validate (.bool true) true = .error fault ∧
        fault.raised.kind = .badType) ∧
      parameter.InRange (.int 7) := by
  have made : Parameter.make (.text "Size") (.int 5) (.text "") (.int 1) .null =
      .ok ⟨.text "Size", .int 5, .text "", some (.int 1), none⟩ := rfl
  obtain ⟨_, answers, _, _, within⟩ := Parameter.ranges_enforced made
  refine ⟨_, made, ((answers (.int 1)).accepts true).mpr ?_,
    (answers (.int 0)).rejects.mpr ⟨?_, ?_⟩,
    (answers (.bool true)).badType.mpr ⟨?_, rfl, rfl⟩, (within (.int 7)).mpr ?_⟩
  · exact ⟨_, rfl, rfl, by rintro _ ⟨⟩; exact .inl (.int (by decide)), nofun⟩
  · rintro ⟨_, ⟨⟩, admits⟩
    rcases admits.minimum _ rfl with order | number | number
    · rcases order with ⟨order⟩
      exact absurd order (by decide)
    · cases number
    · cases number
  · nofun
  · rintro _ ⟨⟩
    nofun
  · refine ⟨⟨rfl, ?_, nofun⟩, ?_⟩
    · rintro _ ⟨⟩
      exact .inl (.int (by decide))
    · rintro ⟨_, ⟨⟨⟩⟩ | ⟨⟨⟩⟩, number | number⟩
      · cases number
      · cases number

/-- What is not a number is accepted where nothing below zero is, and it is stored. -/
theorem Parameter.not_a_number_accepted :
    ∃ parameter, Parameter.make (.text "P") (.real .zero) (.text "") (.real .zero) .null =
        .ok parameter ∧
      ¬parameter.InRange (.real .nan) ∧
      (∀ strict, parameter.validate (.real .nan) strict = .ok true) ∧
      ∃ entry changed, ConfigEntry.InUse parameter entry ∧
        entry.set (.real .nan) = .ok (changed, true) ∧ changed.value = .real .nan := by
  have made : Parameter.make (.text "P") (.real .zero) (.text "") (.real .zero) .null =
      .ok ⟨.text "P", .real .zero, .text "", some (.real .zero), none⟩ := rfl
  refine ⟨_, made, fun inside => ?_, fun strict => rfl, _, _, .made made "p" .null true, rfl, rfl⟩
  exact (inside.minimum _ rfl).isNumber.2 rfl

end ScriptCatalog
