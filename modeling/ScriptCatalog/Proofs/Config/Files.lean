import ScriptCatalog.Proofs.Act
import ScriptCatalog.Proofs.Keyed
import ScriptCatalog.Files

/-! Files that are written. Writing a file moves no folder, so that a path that led to a place
before leads there afterwards, and what was written there can be read. -/

namespace ScriptCatalog

namespace Files

/-- A path that leads to a place where a file can be. -/
structure Leads (files : Files) (path : String) (place : Place) : Prop where
  target : files.target path = .ok (.name place false)
  name : expectName path place = .ok ()
  free : files.isFolder place = false

/-- A path that leads to a place where a file can be written. -/
structure Takes (files : Files) (path : String) (place : Place) : Prop extends
    files.Leads path place where
  unlocked : files.locked.contains place = false

variable {files : Files} {path text : String} {place other : Place}

theorem isFolder_put : (files.put other text).isFolder place = files.isFolder place := by
  unfold put isFolder
  split <;> rfl

theorem locked_put : (files.put other text).locked = files.locked := by
  unfold put
  split <;> rfl

theorem working_put : (files.put other text).working = files.working := by
  unfold put
  split <;> rfl

theorem enter_put {name : String} {inside : Place}
    (entered : files.enter path place name = .ok inside) :
    (files.put other text).enter path place name = .ok inside := by
  unfold enter at entered ⊢
  dsimp only at entered ⊢
  rw [isFolder_put]
  split at entered
  · cases entered
  · split at entered
    next long folder =>
      rw [if_neg long, if_pos folder]
      exact entered
    next =>
      split at entered
      · cases entered
      · cases entered

theorem foldlM_enter_put {names : List String} {inside : Place}
    (entered : names.foldlM (files.enter path) place = .ok inside) :
    names.foldlM ((files.put other text).enter path) place = .ok inside := by
  induction names generalizing place with
  | nil => exact entered
  | cons name names ih =>
      rw [List.foldlM_cons] at entered ⊢
      obtain ⟨middle, first, rest⟩ := (Except.bind_eq_ok _ _ _).mp entered
      rw [enter_put first]
      exact ih rest

theorem target_put {target : Target} (leads : files.target path = .ok target) :
    (files.put other text).target path = .ok target := by
  unfold Files.target at leads ⊢
  obtain ⟨_, proper, leads⟩ := (Except.bind_eq_ok _ _ _).mp leads
  refine (Except.bind_eq_ok _ _ _).mpr ⟨(), proper, ?_⟩
  dsimp only at leads ⊢
  cases names : (namesIn path).getLast? with
  | none =>
      simp only [names] at leads ⊢
      exact leads
  | some last =>
      simp only [names] at leads ⊢
      obtain ⟨inside, entered, leads⟩ := (Except.bind_eq_ok _ _ _).mp leads
      rw [working_put, foldlM_enter_put entered]
      exact leads

theorem Leads.put (leads : files.Leads path place) : (files.put other text).Leads path place :=
  ⟨target_put leads.target, leads.name, isFolder_put.trans leads.free⟩

theorem Takes.put (takes : files.Takes path place) : (files.put other text).Takes path place :=
  ⟨takes.toLeads.put, by rw [locked_put]; exact takes.unlocked⟩

/-- A file can be written at a path, if there is one. -/
def CanKeep (files : Files) (path : Option String) : Prop :=
  ∀ kept ∈ path, ∃ place, files.Takes kept place

theorem write_eq_ok_iff {after : Files} :
    files.write path text = .ok after ↔
      ∃ place, files.Takes path place ∧ after = files.put place text := by
  constructor
  · intro written
    obtain ⟨target, target_ok, written⟩ := (Except.bind_eq_ok _ _ _).mp written
    cases target with
    | folder => cases written
    | name place slashed =>
        cases slashed with
        | true => cases written
        | false =>
            obtain ⟨_, name, written⟩ := (Except.bind_eq_ok _ _ _).mp written
            cases free : files.isFolder place with
            | true =>
                simp only [free] at written
                cases written
            | false =>
                cases locked : files.locked.contains place with
                | true =>
                    simp only [free, locked] at written
                    cases written
                | false =>
                    simp only [free, locked] at written
                    cases written
                    exact ⟨place, ⟨⟨target_ok, name, free⟩, locked⟩, rfl⟩
  · rintro ⟨place, takes, rfl⟩
    refine (Except.bind_eq_ok _ _ _).mpr ⟨_, takes.target, ?_⟩
    refine (Except.bind_eq_ok _ _ _).mpr ⟨(), takes.name, ?_⟩
    simp only [takes.free, takes.unlocked]
    rfl

/-- A file that is locked is not written. -/
theorem Leads.write_of_locked (leads : files.Leads path place)
    (locked : files.locked.contains place = true) :
    files.write path text = .error (.notAllowed path) := by
  refine (Except.bind_eq_error _ _ _).mpr (.inr ⟨_, leads.target, ?_⟩)
  refine (Except.bind_eq_error _ _ _).mpr (.inr ⟨(), leads.name, ?_⟩)
  simp only [leads.free, locked]
  rfl

theorem Leads.unique (leads : files.Leads path place) (others : files.Leads path other) :
    place = other := by
  cases leads.target.symm.trans others.target
  rfl

theorem leads_of_read (found : files.read path = .ok text) : ∃ place, files.Leads path place := by
  obtain ⟨target, target_ok, found⟩ := (Except.bind_eq_ok _ _ _).mp found
  cases target with
  | folder => cases found
  | name place slashed =>
      obtain ⟨_, name, found⟩ := (Except.bind_eq_ok _ _ _).mp found
      cases free : files.isFolder place with
      | true =>
          simp only [free] at found
          cases found
      | false =>
          simp only [free, Bool.false_eq_true, if_false] at found
          cases there : files.textAt? place with
          | none =>
              rw [there] at found
              cases found
          | some held =>
              rw [there] at found
              cases slashed with
              | true => cases found
              | false => exact ⟨place, target_ok, name, free⟩

theorem Leads.read_eq (leads : files.Leads path place) (there : files.textAt? place = some text) :
    files.read path = .ok (String.ofList (unifyLines text.toList)) := by
  refine (Except.bind_eq_ok _ _ _).mpr ⟨_, leads.target, ?_⟩
  refine (Except.bind_eq_ok _ _ _).mpr ⟨(), leads.name, ?_⟩
  simp only [leads.free, there]
  rfl

theorem unifyLines_of_not_mem {text : List Char} (feeds : '\r' ∉ text) :
    unifyLines text = text := by
  induction text with
  | nil => rfl
  | cons c text ih =>
      rw [List.mem_cons, not_or] at feeds
      have other : c ≠ '\r' := fun same => feeds.1 same.symm
      rw [unifyLines, ih feeds.2]
      · exact fun _ same => absurd same other
      · exact fun same => absurd same other

/-- A text that is kept is read as it is, if its lines end in line feeds. -/
theorem Leads.read_text (leads : files.Leads path place) (there : files.textAt? place = some text)
    (feeds : '\r' ∉ text.toList) : files.read path = .ok text := by
  rw [leads.read_eq there, unifyLines_of_not_mem feeds, String.ofList_toList]

/-- What is written under a place that keeps what is written is there, and can be read. -/
theorem textAt_put (keeps : place ≠ nullPlace) :
    (files.put place text).textAt? place = some text := by
  simp only [put, keeps, if_false, textAt?, lookup_putField, beq_self_eq_true, if_true]

/-- Whether a path leads to a file that keeps what is written depends on its place. -/
theorem Leads.contains_iff (leads : files.Leads path place) :
    files.contains path = true ↔ place ≠ nullPlace ∧ (files.textAt? place).isSome = true := by
  simp only [contains, leads.target, Bool.and_eq_true, decide_eq_true_eq]

theorem Leads.contains_put (leads : files.Leads path place) (keeps : place ≠ nullPlace) :
    (files.put place text).contains path = true := by
  refine leads.put.contains_iff.mpr ⟨keeps, ?_⟩
  rw [textAt_put keeps]
  rfl

/-- What is written in a file that keeps it is read from there, if its lines end in line feeds. -/
theorem read_of_write {after : Files} (written : files.write path text = .ok after)
    (keeps : after.contains path = true) (feeds : '\r' ∉ text.toList) :
    after.read path = .ok text := by
  obtain ⟨place, takes, rfl⟩ := write_eq_ok_iff.mp written
  have leads := takes.toLeads
  have notNull := (leads.put.contains_iff.mp keeps).1
  exact leads.put.read_text (textAt_put notNull) feeds

/-! Paths that are one name. -/

/-- One name, of those that are not too long. -/
def isSingleName (path : String) : Bool :=
  !path.toList.contains '\x00' && !path.toList.contains '/' && !path.isEmpty &&
    !isTooLong path && namesIn path == [path]

/-- A name leads to what has it in the working folder, or else to a folder. -/
theorem target_of_isSingleName (single : isSingleName path = true) :
    files.target path =
      .ok (if isRelativeName path then .folder else .name (files.working ++ [path]) false) := by
  simp only [isSingleName, Bool.and_eq_true, Bool.not_eq_true', beq_iff_eq, List.contains_eq_mem,
    decide_eq_false_iff_not] at single
  obtain ⟨⟨⟨⟨noNull, noSlash⟩, some⟩, short⟩, alone⟩ := single
  have few : ¬mostPathBytes < path.utf8ByteSize :=
    fun long => of_decide_eq_false short (Nat.lt_trans (by decide) long)
  have expected : expectPath path = .ok () := by
    simp only [expectPath, String.contains_char_eq, noNull, some, if_neg few, decide_false,
      Bool.false_eq_true, if_false]
    rfl
  have below : path.startsWith '/' = false := by
    rw [String.startsWith_char_eq_head?, beq_eq_false_iff_ne]
    exact fun first => noSlash (List.mem_of_head? first)
  have unslashed : path.endsWith '/' = false := by
    rw [String.endsWith_char_eq_getLast?, beq_eq_false_iff_ne]
    exact fun last => noSlash (List.mem_of_getLast? last)
  refine (Except.bind_eq_ok _ _ _).mpr ⟨(), expected, ?_⟩
  rw [alone, startOf, below, unslashed]
  change (if isRelativeName path then Except.ok Target.folder
    else .ok (.name (files.working ++ [path]) false)) = _
  cases isRelativeName path <;> rfl

theorem leads_of_isSingleName (single : isSingleName path = true)
    (own : isRelativeName path = false)
    (free : files.isFolder (files.working ++ [path]) = false) :
    files.Leads path (files.working ++ [path]) := by
  refine ⟨?_, ?_, free⟩
  · rw [target_of_isSingleName single, own]
    rfl
  · simp only [isSingleName, Bool.and_eq_true, Bool.not_eq_true'] at single
    have short := single.1.2
    rw [expectName, List.getLast?_concat, Option.map_some, short]
    rfl

end Files

end ScriptCatalog
