import Mathlib.Data.List.Nodup
import ScriptCatalog.Datum.Key

/-! Lists of values under keys, as tables and registries keep them. Storing under a new key appends
it, storing under a key that is there keeps its place, and no key is there twice. -/

namespace ScriptCatalog

section

variable {κ α : Type}

def keysOf (fields : List (κ × α)) : List κ := fields.map (·.1)

theorem keysOf_cons (key : κ) (value : α) (rest : List (κ × α)) :
    keysOf ((key, value) :: rest) = key :: keysOf rest := rfl

variable [BEq κ] [LawfulBEq κ]

theorem lookup_isSome_iff_mem_keysOf (key : κ) (fields : List (κ × α)) :
    (fields.lookup key).isSome = true ↔ key ∈ keysOf fields := by
  rw [List.lookup_isSome_iff, keysOf, List.mem_map]
  constructor
  · rintro ⟨field, member, same⟩
    exact ⟨field, member, (eq_of_beq same).symm⟩
  · rintro ⟨field, member, rfl⟩
    exact ⟨field, member, beq_self_eq_true _⟩

theorem lookup_eq_none_iff_not_mem_keysOf (key : κ) (fields : List (κ × α)) :
    fields.lookup key = none ↔ key ∉ keysOf fields := by
  rw [← lookup_isSome_iff_mem_keysOf, Option.not_isSome_iff_eq_none]

theorem mem_keysOf_of_lookup {key : κ} {value : α} {fields : List (κ × α)}
    (found : fields.lookup key = some value) : key ∈ keysOf fields := by
  rw [← lookup_isSome_iff_mem_keysOf, found]
  rfl

theorem lookup_of_mem {key : κ} {value : α} {fields : List (κ × α)}
    (distinct : (keysOf fields).Nodup) (member : (key, value) ∈ fields) :
    fields.lookup key = some value := by
  induction fields with
  | nil => cases member
  | cons field rest ih =>
      obtain ⟨other, held⟩ := field
      rw [keysOf, List.map_cons, List.nodup_cons] at distinct
      rcases List.mem_cons.mp member with same | later
      · cases same
        exact List.lookup_cons_self
      · have different : (key == other) = false := by
          rw [beq_eq_false_iff_ne]
          rintro rfl
          exact distinct.1 (List.mem_map_of_mem (f := (·.1)) later)
        rw [List.lookup_cons, different]
        exact ih distinct.2 later

/-! Storing. -/

theorem keysOf_putField_of_mem {key : κ} (value : α) {fields : List (κ × α)}
    (there : key ∈ keysOf fields) : keysOf (putField key value fields) = keysOf fields := by
  induction fields with
  | nil => cases there
  | cons field rest ih =>
      obtain ⟨other, held⟩ := field
      rw [putField]
      split
      next same => rfl
      next different =>
        have later : key ∈ keysOf rest := by
          rcases List.mem_cons.mp there with rfl | later
          · exact absurd (beq_self_eq_true _) different
          · exact later
        rw [keysOf, List.map_cons, ← keysOf, ih later]
        rfl

theorem putField_of_not_mem {key : κ} (value : α) {fields : List (κ × α)}
    (new : key ∉ keysOf fields) : putField key value fields = fields ++ [(key, value)] := by
  induction fields with
  | nil => rfl
  | cons field rest ih =>
      obtain ⟨other, held⟩ := field
      rw [keysOf, List.map_cons, List.mem_cons, not_or] at new
      have different : ¬(other == key) = true := fun same => new.1 (eq_of_beq same).symm
      rw [putField, if_neg different, ih new.2]
      rfl

theorem keysOf_putField_of_not_mem {key : κ} (value : α) {fields : List (κ × α)}
    (new : key ∉ keysOf fields) : keysOf (putField key value fields) = keysOf fields ++ [key] := by
  rw [putField_of_not_mem value new, keysOf, List.map_append]
  rfl

theorem nodup_keysOf_putField (key : κ) (value : α) {fields : List (κ × α)}
    (distinct : (keysOf fields).Nodup) : (keysOf (putField key value fields)).Nodup := by
  by_cases there : key ∈ keysOf fields
  · rw [keysOf_putField_of_mem value there]
    exact distinct
  · rw [keysOf_putField_of_not_mem value there]
    rw [List.nodup_append_comm]
    exact List.nodup_cons.mpr ⟨there, distinct⟩

theorem mem_keysOf_putField (key asked : κ) (value : α) (fields : List (κ × α)) :
    asked ∈ keysOf (putField key value fields) ↔ asked = key ∨ asked ∈ keysOf fields := by
  by_cases there : key ∈ keysOf fields
  · rw [keysOf_putField_of_mem value there]
    constructor
    · exact .inr
    · rintro (rfl | member)
      · exact there
      · exact member
  · rw [keysOf_putField_of_not_mem value there, List.mem_append, List.mem_singleton, or_comm]

omit [LawfulBEq κ] in
theorem lookup_putField [EquivBEq κ] (key asked : κ) (value : α) (fields : List (κ × α)) :
    (putField key value fields).lookup asked =
      if asked == key then some value else fields.lookup asked := by
  induction fields with
  | nil =>
      rw [putField, List.lookup_cons]
      cases asked == key <;> rfl
  | cons field rest ih =>
      obtain ⟨other, held⟩ := field
      rw [putField]
      split
      next same =>
        rw [List.lookup_cons, List.lookup_cons, ← BEq.congr_right same]
        cases asked == other <;> rfl
      next different =>
        rw [List.lookup_cons, List.lookup_cons, ih]
        cases first : asked == other with
        | true =>
            have apart : ¬(asked == key) = true := fun same =>
              different (BEq.trans (BEq.symm first) same)
            exact (if_neg apart).symm
        | false => rfl

omit [LawfulBEq κ] in
/-- Storing what is there already changes nothing, and storing anything else does. -/
theorem putField_eq_self_iff [EquivBEq κ] (key : κ) (value : α) (fields : List (κ × α)) :
    putField key value fields = fields ↔ fields.lookup key = some value := by
  constructor
  · intro same
    rw [← same, lookup_putField, BEq.rfl]
    rfl
  · intro found
    induction fields with
    | nil => cases found
    | cons field rest ih =>
        obtain ⟨other, held⟩ := field
        rw [List.lookup_cons] at found
        cases first : key == other with
        | true =>
            rw [first] at found
            cases found
            rw [putField, if_pos (BEq.symm first)]
        | false =>
            rw [first] at found
            have apart : ¬(other == key) = true := fun same => by
              rw [BEq.symm same] at first
              cases first
            rw [putField, if_neg apart, ih found]

theorem perm_keysOf_putField {β : Type} (key : κ) (value : α) (other : β)
    {fields : List (κ × α)} {others : List (κ × β)} (same : (keysOf fields).Perm (keysOf others)) :
    (keysOf (putField key value fields)).Perm (keysOf (putField key other others)) := by
  by_cases there : key ∈ keysOf others
  · rw [keysOf_putField_of_mem value (same.mem_iff.mpr there), keysOf_putField_of_mem other there]
    exact same
  · rw [keysOf_putField_of_not_mem value fun member => there (same.mem_iff.mp member),
      keysOf_putField_of_not_mem other there]
    exact same.append_right [key]

/-! Erasing. -/

omit [LawfulBEq κ] in
theorem keysOf_eraseField (key : κ) (fields : List (κ × α)) :
    keysOf (eraseField key fields) = (keysOf fields).erase key := by
  induction fields with
  | nil => rfl
  | cons field rest ih =>
      obtain ⟨other, held⟩ := field
      rw [eraseField, keysOf_cons, List.erase_cons]
      split
      next same => rfl
      next different => rw [keysOf_cons, ih]

omit [LawfulBEq κ] in
theorem eraseField_ne_self [EquivBEq κ] {key : κ} {value : α} {fields : List (κ × α)}
    (found : fields.lookup key = some value) : eraseField key fields ≠ fields := by
  induction fields with
  | nil => cases found
  | cons field rest ih =>
      obtain ⟨other, held⟩ := field
      rw [eraseField]
      split
      next same => exact (List.cons_ne_self _ _).symm
      next different =>
        have apart : (key == other) = false := by
          rw [BEq.comm]
          exact Bool.eq_false_iff.mpr different
        rw [List.lookup_cons, apart] at found
        exact fun same => ih found (List.cons.inj same).2

/-- Erasing a key and storing under it again moves it to the end. -/
theorem perm_keysOf_putField_eraseField {key : κ} (value : α) {fields : List (κ × α)}
    (distinct : (keysOf fields).Nodup) (there : key ∈ keysOf fields) :
    (keysOf (putField key value (eraseField key fields))).Perm (keysOf fields) := by
  have gone : key ∉ keysOf (eraseField key fields) := by
    rw [keysOf_eraseField]
    exact distinct.not_mem_erase
  rw [keysOf_putField_of_not_mem value gone, keysOf_eraseField]
  exact (List.perm_append_singleton key _).trans (List.perm_cons_erase there).symm

theorem lookup_eraseField {key : κ} (asked : κ) {fields : List (κ × α)}
    (distinct : (keysOf fields).Nodup) :
    (eraseField key fields).lookup asked =
      if asked == key then none else fields.lookup asked := by
  induction fields with
  | nil => simp [eraseField]
  | cons field rest ih =>
      obtain ⟨other, held⟩ := field
      rw [keysOf_cons, List.nodup_cons] at distinct
      rw [eraseField]
      split
      next same =>
        cases eq_of_beq same
        rw [List.lookup_cons]
        cases first : asked == key with
        | true =>
            cases eq_of_beq first
            exact (lookup_eq_none_iff_not_mem_keysOf _ _).mpr distinct.1
        | false => rfl
      next different =>
        rw [List.lookup_cons, List.lookup_cons, ih distinct.2]
        cases first : asked == other with
        | true =>
            cases eq_of_beq first
            exact (if_neg different).symm
        | false => rfl

end

/-! Keys that are texts. -/

/-- A list under texts, as one under values of any type. -/
def underTexts {α : Type} (fields : List (String × α)) : List (Datum × α) :=
  fields.map fun field => (.text field.1, field.2)

section

variable {α : Type}

theorem keysOf_underTexts (fields : List (String × α)) :
    (underTexts fields).map (·.1) = (keysOf fields).map .text := by
  simp [underTexts, keysOf]

theorem putField_underTexts (key : String) (value : α) (fields : List (String × α)) :
    putField (.text key) value (underTexts fields) = underTexts (putField key value fields) := by
  induction fields with
  | nil => rfl
  | cons field rest ih =>
      obtain ⟨other, held⟩ := field
      rw [underTexts, List.map_cons, ← underTexts, putField, putField, Datum.text_beq_text, ih]
      split <;> rfl

theorem eraseField_underTexts (key : String) (fields : List (String × α)) :
    eraseField (.text key) (underTexts fields) = underTexts (eraseField key fields) := by
  induction fields with
  | nil => rfl
  | cons field rest ih =>
      obtain ⟨other, held⟩ := field
      rw [underTexts, List.map_cons, ← underTexts, eraseField, eraseField, Datum.text_beq_text, ih]
      split <;> rfl

theorem lookup_underTexts (key : String) (fields : List (String × α)) :
    (underTexts fields).lookup (.text key) = fields.lookup key := by
  induction fields with
  | nil => rfl
  | cons field rest ih =>
      obtain ⟨other, held⟩ := field
      rw [underTexts, List.map_cons, ← underTexts, List.lookup_cons, List.lookup_cons,
        Datum.text_beq_text, ih]

theorem mem_underTexts_of_lookup {key : String} {value : α} {fields : List (String × α)}
    (found : fields.lookup key = some value) : (.text key, value) ∈ underTexts fields := by
  obtain ⟨before, rest, rfl, _⟩ := List.lookup_eq_some_iff.mp found
  exact List.mem_map.mpr ⟨(key, value), List.mem_append_right before List.mem_cons_self, rfl⟩

theorem eq_text_of_lookup_underTexts {key : Datum} {value : α} {fields : List (String × α)}
    (found : (underTexts fields).lookup key = some value) : ∃ words, key = .text words := by
  have there : ((underTexts fields).lookup key).isSome := by
    rw [found]
    rfl
  obtain ⟨field, member, same⟩ := List.lookup_isSome_iff.mp there
  obtain ⟨⟨words, held⟩, _, rfl⟩ := List.mem_map.mp member
  rw [Datum.beq_iff] at same
  cases key with
  | text words => exact ⟨words, rfl⟩
  | _ => cases same

end

end ScriptCatalog
