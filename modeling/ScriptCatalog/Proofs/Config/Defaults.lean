import ScriptCatalog.Proofs.Config.Reached
import ScriptCatalog.Proofs.Json.Digits
import ScriptCatalog.Proofs.Number.Nearest

/-! Defaults of settings whose definitions were read. Each is a value of the document, or an integer
that a number or a text of it was converted to. None of them is too long to be written out, so that
settings can be saved with their defaults. -/

namespace ScriptCatalog

variable [Platform]

/-! Integers that are converted to. -/

namespace Binary64

theorem units_lt (exponent : Fin 2047) (fraction : Fin (Nat.pow 2 52)) :
    units exponent fraction < unitsPerOne * 2 ^ 1024 := by
  rw [unitsPerOne_eq, ← pow_add]
  calc units exponent fraction
      ≤ (2 ^ 53 - 1) * 2 ^ 2045 := units_le exponent fraction
    _ < 2 ^ 53 * 2 ^ 2045 := Nat.mul_lt_mul_of_pos_right (by decide) (by positivity)
    _ = 2 ^ (1074 + 1024) := by rw [← pow_add]

theorem natAbs_signed (negative : Bool) (size : Nat) : (signed negative size).natAbs = size := by
  cases negative with
  | false => rfl
  | true => exact Int.natAbs_neg size

/-- What is before the point of a number is never too long. -/
theorem isShort_of_truncate? {number : Binary64} {value : Int}
    (cut : number.truncate? = some value) : isShort value = true := by
  cases number with
  | finite negative exponent fraction =>
      cases cut
      have enough : 1024 ≤ 3 * Platform.digits :=
        (by decide : 1024 ≤ 3 * 640).trans (Nat.mul_le_mul_left 3 Platform.digits_ge)
      rw [isShort, decide_eq_true_eq, natAbs_signed, nat_pow_eq]
      calc units exponent fraction / unitsPerOne
          < 2 ^ 1024 := Nat.div_lt_of_lt_mul (units_lt exponent fraction)
        _ ≤ 2 ^ (3 * Platform.digits) := pow_le_pow_right₀ one_le_two enough
        _ ≤ 10 ^ Platform.digits := two_pow_le_ten_pow Platform.digits
  | nan => cases cut
  | infinite negative => cases cut

end Binary64

theorem ofDigitChars_lt {digits : List Char} (each : ∀ c ∈ digits, c.isDigit = true) (start : Nat) :
    Nat.ofDigitChars 10 digits start < (start + 1) * 10 ^ digits.length := by
  induction digits generalizing start with
  | nil => simp
  | cons c rest ih =>
      obtain ⟨first, others⟩ := List.forall_mem_cons.mp each
      have digit : c.toNat - '0'.toNat < 10 := by
        simp only [Char.isDigit, Bool.and_eq_true, decide_eq_true_eq] at first
        have most : c.toNat ≤ 57 := UInt32.le_iff_toNat_le.mp first.2
        change c.toNat - 48 < 10
        omega
      rw [Nat.ofDigitChars_cons, List.length_cons, Nat.pow_succ]
      calc Nat.ofDigitChars 10 rest (10 * start + (c.toNat - '0'.toNat))
          < (10 * start + (c.toNat - '0'.toNat) + 1) * 10 ^ rest.length := ih others _
        _ ≤ (10 * (start + 1)) * 10 ^ rest.length := Nat.mul_le_mul_right _ (by omega)
        _ = (start + 1) * (10 ^ rest.length * 10) := by ring

/-- An integer that is read from a text is no longer than the text. -/
theorem isShort_of_readInt? {text : String} {value : Int} (read : readInt? text = some value)
    (few : countDigits text ≤ Platform.digits) : isShort value = true := by
  unfold readInt? at read
  cases found : numeral? text with
  | none =>
      rw [found] at read
      cases read
  | some numeral =>
      obtain ⟨negative, digits⟩ := numeral
      rw [countDigits, found] at few
      simp only [found, Option.bind_eq_bind, Option.bind_some] at read
      unfold readNat? at read
      split at read
      next proper =>
        simp only [Bool.and_eq_true, List.all_eq_true] at proper
        have small := ofDigitChars_lt proper.2 0
        rw [Nat.zero_add, Nat.one_mul] at small
        have size : value.natAbs = Nat.ofDigitChars 10 digits 0 := by
          cases read
          cases negative with
          | false => rfl
          | true => exact Int.natAbs_neg _
        rw [isShort, decide_eq_true_eq, size, nat_pow_eq]
        exact small.trans_le (Nat.pow_le_pow_right (by decide) few)
      next => cases read

namespace Json

theorem isShort_of_toInt {json : Json} {value : Int} (short : json.hasFewDigits = true)
    (given : json.toInt = .ok value) : isShort value = true := by
  cases json with
  | bool held =>
      cases given
      cases held with
      | false => exact isShort_of_natAbs_lt (by decide)
      | true => exact isShort_of_natAbs_lt (by decide)
  | int held =>
      cases given
      exact short
  | real number =>
      cases cut : number.truncate? with
      | some whole =>
          have same : whole = value := by
            cases number with
            | nan => cases cut
            | infinite negative => cases cut
            | finite negative exponent fraction =>
                rw [toInt, cut] at given
                · cases given
                  rfl
                · nofun
          exact same ▸ Binary64.isShort_of_truncate? cut
      | none =>
          cases number with
          | nan => cases given
          | infinite negative => cases given
          | finite negative exponent fraction => cases cut
  | string words =>
      rw [toInt] at given
      cases read : readInt? words with
      | none =>
          rw [read] at given
          cases given
      | some number =>
          simp only [read] at given
          split at given
          next few =>
            cases given
            exact isShort_of_readInt? read few
          next => cases given
  | null => cases given
  | array items => cases given
  | object fields => cases given

end Json

/-! Defaults of settings. -/

namespace ConfigEntry

theorem canWrite_of_coerce {kind : ScalarKind} {json : Json} {value : Scalar}
    (short : json.hasFewDigits = true) (given : coerce kind json = .ok value) :
    Json.canWrite value = true := by
  cases kind with
  | bool =>
      cases given
      rfl
  | int =>
      obtain ⟨number, read, same⟩ := (Except.bind_eq_ok _ _ _).mp given
      cases same
      exact Json.isShort_of_toInt short read
  | real =>
      obtain ⟨number, _, same⟩ := (Except.bind_eq_ok _ _ _).mp given
      cases same
      rfl
  | text =>
      obtain ⟨words, _, same⟩ := (Except.bind_eq_ok _ _ _).mp given
      cases same
      rfl

theorem hasFewDigits_emptyValue (kind : ScalarKind) : (emptyValue kind).hasFewDigits = true := by
  cases kind with
  | int => exact isShort_of_natAbs_lt (by decide)
  | _ => rfl

theorem canWrite_of_ofDefinition {key : String} {definition : Json} {entry : ConfigEntry}
    (short : definition.hasFewDigits = true) (made : ofDefinition key definition = .ok entry) :
    Json.canWrite entry.value = true := by
  obtain ⟨type, _, made⟩ := (Except.bind_eq_ok _ _ _).mp made
  obtain ⟨label, _, made⟩ := (Except.bind_eq_ok _ _ _).mp made
  obtain ⟨category, _, made⟩ := (Except.bind_eq_ok _ _ _).mp made
  obtain ⟨description, _, made⟩ := (Except.bind_eq_ok _ _ _).mp made
  obtain ⟨kind, _, made⟩ := (Except.bind_eq_ok _ _ _).mp made
  obtain ⟨default, coerced, made⟩ := (Except.bind_eq_ok _ _ _).mp made
  obtain ⟨range, _, made⟩ := (Except.bind_eq_ok _ _ _).mp made
  obtain ⟨minimum, _, made⟩ := (Except.bind_eq_ok _ _ _).mp made
  obtain ⟨maximum, _, made⟩ := (Except.bind_eq_ok _ _ _).mp made
  obtain ⟨parameter, _, made⟩ := (Except.bind_eq_ok _ _ _).mp made
  cases made
  refine canWrite_of_coerce ?_ coerced
  cases there : definition.field? "default" with
  | none => exact hasFewDigits_emptyValue kind
  | some json => exact Json.hasFewDigits_of_field? short there

end ConfigEntry

namespace Config

variable {defined : List ConfigEntry}

theorem canWrite_of_definedEntries {fields : List (String × Json)}
    (short : Json.fieldsHaveFewDigits fields = true) (made : definedEntries fields = .ok defined) :
    ∀ definition ∈ defined, Json.canWrite definition.value = true := by
  induction fields generalizing defined with
  | nil =>
      cases made
      exact List.forall_mem_nil _
  | cons field rest ih =>
      obtain ⟨key, definition⟩ := field
      rw [Json.fieldsHaveFewDigits, Bool.and_eq_true] at short
      obtain ⟨_, _, made⟩ := (Except.bind_eq_ok _ _ _).mp made
      obtain ⟨entry, first, made⟩ := (Except.bind_eq_ok _ _ _).mp made
      obtain ⟨others, later, made⟩ := (Except.bind_eq_ok _ _ _).mp made
      cases made
      exact List.forall_mem_cons.mpr
        ⟨ConfigEntry.canWrite_of_ofDefinition short.1 first, ih short.2 later⟩

theorem canSave_of_forall (each : ∀ definition ∈ defined, Json.canWrite definition.value = true)
    (connections : List Connection) (path : Option String) :
    CanSave ⟨defined, connections, path⟩ := by
  intro field member
  obtain ⟨entry, kept, rfl⟩ := List.mem_map.mp member
  exact each entry (List.mem_of_mem_filter kept)

end Config

end ScriptCatalog
