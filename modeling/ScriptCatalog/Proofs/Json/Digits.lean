import ScriptCatalog.Datum.Display
import ScriptCatalog.Json.Reader
import ScriptCatalog.Proofs.Json.ReadBack

/-! Values of documents that were read. None of their integers is too long to be written out, so
that only their depth can keep them from being shown. -/

namespace ScriptCatalog

variable [Platform]

namespace Json

mutual

/-- Whether no integer in a value is too long to be written out. -/
def hasFewDigits : Json → Bool
  | int value => isShort value
  | array items => itemsHaveFewDigits items
  | object fields => fieldsHaveFewDigits fields
  | null | bool _ | real _ | string _ => true

def itemsHaveFewDigits : List Json → Bool
  | [] => true
  | item :: rest => hasFewDigits item && itemsHaveFewDigits rest

def fieldsHaveFewDigits : List (String × Json) → Bool
  | [] => true
  | (_, value) :: rest => hasFewDigits value && fieldsHaveFewDigits rest

end

theorem itemsHaveFewDigits_iff (items : List Json) :
    itemsHaveFewDigits items = true ↔ ∀ item ∈ items, item.hasFewDigits = true := by
  induction items with
  | nil => exact ⟨fun _ => List.forall_mem_nil _, fun _ => rfl⟩
  | cons item rest ih =>
      rw [itemsHaveFewDigits, Bool.and_eq_true, ih, List.forall_mem_cons]

theorem fieldsHaveFewDigits_iff (fields : List (String × Json)) :
    fieldsHaveFewDigits fields = true ↔ ∀ field ∈ fields, field.2.hasFewDigits = true := by
  induction fields with
  | nil => exact ⟨fun _ => List.forall_mem_nil _, fun _ => rfl⟩
  | cons field rest ih =>
      rw [fieldsHaveFewDigits, Bool.and_eq_true, ih, List.forall_mem_cons]

theorem hasFewDigits_of_lookup {fields : List (String × Json)} {key : String} {value : Json}
    (short : fieldsHaveFewDigits fields = true) (found : fields.lookup key = some value) :
    value.hasFewDigits = true := by
  obtain ⟨before, after, rfl, _⟩ := List.lookup_eq_some_iff.mp found
  exact (fieldsHaveFewDigits_iff _).mp short (key, value) (by simp)

theorem hasFewDigits_of_field? {key : String} {value found : Json}
    (short : value.hasFewDigits = true) (there : value.field? key = some found) :
    found.hasFewDigits = true := by
  cases value with
  | object fields => exact hasFewDigits_of_lookup short there
  | _ => cases there

theorem fieldsHaveFewDigits_putField {fields : List (String × Json)} {value : Json}
    (short : fieldsHaveFewDigits fields = true) (shortValue : value.hasFewDigits = true)
    (key : String) : fieldsHaveFewDigits (putField key value fields) = true := by
  induction fields with
  | nil => rw [putField, fieldsHaveFewDigits, shortValue, short, Bool.and_self]
  | cons field rest ih =>
      obtain ⟨other, held⟩ := field
      rw [fieldsHaveFewDigits, Bool.and_eq_true] at short
      rw [putField]
      split
      · rw [fieldsHaveFewDigits, shortValue, short.2, Bool.and_self]
      · rw [fieldsHaveFewDigits, short.1, ih short.2, Bool.and_self]

theorem fieldsHaveFewDigits_foldl {fields known : List (String × Json)}
    (short : fieldsHaveFewDigits fields = true) (shortKnown : fieldsHaveFewDigits known = true) :
    fieldsHaveFewDigits (fields.foldl (fun known (key, value) => putField key value known) known) =
      true := by
  induction fields generalizing known with
  | nil => exact shortKnown
  | cons field rest ih =>
      rw [fieldsHaveFewDigits, Bool.and_eq_true] at short
      exact ih short.2 (fieldsHaveFewDigits_putField shortKnown short.1 field.1)

/-- What is read with some fuel has no long integer in it: a value, items, and fields. -/
def ReadsShort (fuel : Nat) : Prop :=
  (∀ room input value rest, readValue fuel room input = .ok (value, rest) →
      value.hasFewDigits = true) ∧
    (∀ room input items rest, readItems fuel room input = .ok (items, rest) →
      itemsHaveFewDigits items = true) ∧
    ∀ room input fields rest, readFields fuel room input = .ok (fields, rest) →
      fieldsHaveFewDigits fields = true

theorem readsShort_value {fuel : Nat} (reads : ReadsShort fuel) {room : Nat}
    {input rest : List Char} {value : Json}
    (read : readValue (fuel + 1) room input = .ok (value, rest)) : value.hasFewDigits = true := by
  obtain ⟨_, readsItems, readsFields⟩ := reads
  rw [readValue.eq_def] at read
  dsimp only at read
  split at read
  · obtain ⟨_, _, read⟩ := (Except.bind_eq_ok _ _ _).mp read
    cases read
    rfl
  · split at read
    · cases read
    · split at read
      · cases read
        rfl
      · obtain ⟨_, items, read⟩ := (Except.bind_eq_ok _ _ _).mp read
        cases read
        exact readsItems _ _ _ _ items
  · split at read
    · cases read
    · split at read
      · cases read
        rfl
      · obtain ⟨_, fields, read⟩ := (Except.bind_eq_ok _ _ _).mp read
        cases read
        exact fieldsHaveFewDigits_foldl (readsFields _ _ _ _ fields) rfl
  · cases read
    rfl
  · cases read
    rfl
  · cases read
    rfl
  · cases read
    rfl
  · cases read
    rfl
  · cases read
    rfl
  · split at read
    · split at read
      next short =>
        cases read
        exact short
      next => cases read
    next number notInt found =>
      cases read
      rcases readNumber?_cases found with ⟨size, rfl⟩ | ⟨_, rfl⟩
      · exact absurd rfl (notInt size rest)
      · rfl
    next => cases read

theorem readsShort_items {fuel : Nat} (reads : ReadsShort fuel) {room : Nat}
    {input rest : List Char} {items : List Json}
    (read : readItems (fuel + 1) room input = .ok (items, rest)) :
    itemsHaveFewDigits items = true := by
  obtain ⟨readsValue, readsItems, _⟩ := reads
  rw [readItems] at read
  obtain ⟨⟨item, after⟩, first, read⟩ := (Except.bind_eq_ok _ _ _).mp read
  have short := readsValue _ _ _ _ first
  dsimp only at read
  split at read
  · cases read
    rw [itemsHaveFewDigits, short, itemsHaveFewDigits, Bool.and_self]
  · obtain ⟨_, others, read⟩ := (Except.bind_eq_ok _ _ _).mp read
    cases read
    rw [itemsHaveFewDigits, short, readsItems _ _ _ _ others, Bool.and_self]
  · cases read

theorem readsShort_fields {fuel : Nat} (reads : ReadsShort fuel) {room : Nat}
    {input rest : List Char} {fields : List (String × Json)}
    (read : readFields (fuel + 1) room input = .ok (fields, rest)) :
    fieldsHaveFewDigits fields = true := by
  obtain ⟨readsValue, _, readsFields⟩ := reads
  rw [readFields.eq_def] at read
  dsimp only at read
  split at read
  · obtain ⟨⟨key, afterKey⟩, _, read⟩ := (Except.bind_eq_ok _ _ _).mp read
    dsimp only at read
    split at read
    · obtain ⟨⟨value, after⟩, first, read⟩ := (Except.bind_eq_ok _ _ _).mp read
      have short := readsValue _ _ _ _ first
      dsimp only at read
      split at read
      · cases read
        rw [fieldsHaveFewDigits, short, fieldsHaveFewDigits, Bool.and_self]
      · obtain ⟨_, others, read⟩ := (Except.bind_eq_ok _ _ _).mp read
        cases read
        rw [fieldsHaveFewDigits, short, readsFields _ _ _ _ others, Bool.and_self]
      · cases read
    · cases read
  · cases read

theorem readsShort (fuel : Nat) : ReadsShort fuel := by
  induction fuel with
  | zero => exact ⟨nofun, nofun, nofun⟩
  | succ fuel ih =>
      exact ⟨fun _ _ _ _ => readsShort_value ih, fun _ _ _ _ => readsShort_items ih,
        fun _ _ _ _ => readsShort_fields ih⟩

theorem hasFewDigits_of_read {text : String} {value : Json} (read : Json.read text = .ok value) :
    value.hasFewDigits = true := by
  obtain ⟨fuel, room, input, rest, found⟩ := exists_readValue_of_read read
  exact (readsShort fuel).1 _ _ _ _ found

end Json

namespace Datum

/-- A value of a document that was read. -/
def IsRead (value : Datum) : Prop :=
  ∃ json : Json, json.hasFewDigits = true ∧ value = ofJson json

variable {value item : Datum} {items : List Datum}

theorem isRead_text (words : String) : (text words).IsRead := ⟨.string words, rfl, rfl⟩

theorem IsRead.isShort {number : Int} (isRead : (int number).IsRead) : isShort number = true := by
  obtain ⟨json, short, same⟩ := isRead
  cases json with
  | int value =>
      cases same
      exact short
  | _ => cases same

theorem ofJsonItems_eq_map (items : List Json) : ofJsonItems items = items.map ofJson := by
  induction items with
  | nil => rfl
  | cons item rest ih => rw [ofJsonItems, ih, List.map_cons]

theorem isRead_of_mem_ofJsonItems {items : List Json}
    (short : Json.itemsHaveFewDigits items = true) (member : item ∈ ofJsonItems items) :
    item.IsRead := by
  rw [ofJsonItems_eq_map] at member
  obtain ⟨json, there, rfl⟩ := List.mem_map.mp member
  exact ⟨json, (Json.itemsHaveFewDigits_iff items).mp short json there, rfl⟩

theorem IsRead.of_mem_items? (isRead : value.IsRead) (listed : value.items? = some items)
    (member : item ∈ items) : item.IsRead := by
  obtain ⟨json, short, rfl⟩ := isRead
  cases json with
  | array held =>
      cases listed
      exact isRead_of_mem_ofJsonItems short member
  | string words =>
      cases listed
      obtain ⟨c, _, rfl⟩ := List.mem_map.mp member
      exact isRead_text _
  | object fields =>
      cases listed
      obtain ⟨field, _, rfl⟩ := List.mem_map.mp member
      exact isRead_text _
  | _ => cases listed

theorem IsRead.of_mem_sequence? (isRead : value.IsRead) (listed : value.sequence? = some items)
    (member : item ∈ items) : item.IsRead := by
  refine isRead.of_mem_items? ?_ member
  cases value with
  | list held => exact listed
  | tuple held => exact listed
  | _ => cases listed

mutual

/-- Only its depth can keep a value that was read from being shown. -/
theorem obstacle?_ofJson (room : Nat) (json : Json) (short : json.hasFewDigits = true) :
    obstacle? room (ofJson json) ≠ some .tooLong := by
  cases json with
  | int value =>
      have shown : isShort value = true := short
      rw [ofJson, obstacle?, if_pos shown]
      nofun
  | array items =>
      cases room with
      | zero => nofun
      | succ room => exact itemsObstacle?_ofJsonItems room items short
  | object fields =>
      cases room with
      | zero => nofun
      | succ room => exact fieldsObstacle?_ofJsonFields room fields short
  | _ => nofun

theorem itemsObstacle?_ofJsonItems (room : Nat) (items : List Json)
    (short : Json.itemsHaveFewDigits items = true) :
    itemsObstacle? room (ofJsonItems items) ≠ some .tooLong := by
  cases items with
  | nil => nofun
  | cons item rest =>
      rw [Json.itemsHaveFewDigits, Bool.and_eq_true] at short
      have first := obstacle?_ofJson room item short.1
      have others := itemsObstacle?_ofJsonItems room rest short.2
      rw [ofJsonItems, itemsObstacle?]
      cases found : obstacle? room (ofJson item) with
      | none => exact others
      | some obstacle =>
          rw [found] at first
          exact first

theorem fieldsObstacle?_ofJsonFields (room : Nat) (fields : List (String × Json))
    (short : Json.fieldsHaveFewDigits fields = true) :
    fieldsObstacle? room (ofJsonFields fields) ≠ some .tooLong := by
  cases fields with
  | nil => nofun
  | cons field rest =>
      obtain ⟨key, value⟩ := field
      rw [Json.fieldsHaveFewDigits, Bool.and_eq_true] at short
      have first := obstacle?_ofJson room value short.1
      have others := fieldsObstacle?_ofJsonFields room rest short.2
      rw [ofJsonFields, fieldsObstacle?]
      cases found : obstacle? room (ofJson value) with
      | none => exact others
      | some obstacle =>
          rw [found] at first
          exact first

end

theorem IsRead.unshown? (isRead : value.IsRead) {obstacle : Obstacle}
    (unshown : value.unshown? = some obstacle) : obstacle = .tooDeep := by
  obtain ⟨json, short, rfl⟩ := isRead
  cases obstacle with
  | tooLong => exact absurd unshown (obstacle?_ofJson _ json short)
  | tooDeep => rfl

end Datum

end ScriptCatalog
