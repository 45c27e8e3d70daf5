import ScriptCatalog.Config.Basic
import ScriptCatalog.Proofs.Config.Files

/-! What comes of saving and of changing settings. A file can refuse what is to be written, and of
values that cannot all be written it takes those before the first that cannot. A change is made
before it is saved, and stays when that fails. -/

namespace ScriptCatalog

variable [Platform]

/-- What is told of a value to those that are connected, if it is another one than before. -/
def noticesOf (differs : Bool) (value : Scalar) (connected : List Connection) : List Notice :=
  if differs then connected.map fun connection => { connection, value } else []

namespace Config

/-- All saved values can be written out. -/
def CanSave (config : Config) : Prop :=
  ∀ field ∈ config.savedValues, Json.canWrite field.2 = true

theorem canSave_iff (config : Config) :
    (config.savedValues.all fun (_, value) => Json.canWrite value) = true ↔ config.CanSave :=
  List.all_eq_true

end Config

namespace ConfigDesk

/-- What comes of saving. -/
inductive Saves (desk : ConfigDesk) : EStateM.Result Fault ConfigDesk Unit → Prop
  | nowhere (none : desk.config.savedPath = none) : Saves desk (.ok () desk)
  | whole {path : String} {files : Files} (kept : desk.config.savedPath = some path)
      (can : desk.config.CanSave)
      (written : desk.files.write path (Json.write desk.config.savedValues) = .ok files) :
      Saves desk (.ok () { desk with files })
  | refused {path text : String} {fault : Fault} (kept : desk.config.savedPath = some path)
      (failed : desk.files.write path text = .error fault) : Saves desk (.error fault desk)
  | begun {path : String} {files : Files} (kept : desk.config.savedPath = some path)
      (cannot : ¬desk.config.CanSave)
      (written : desk.files.write path (Json.writeStart desk.config.savedValues) = .ok files) :
      Saves desk (.error (.tooManyDigits Platform.digits) { desk with files })

variable {desk after : ConfigDesk} {result : EStateM.Result Fault ConfigDesk Unit}

theorem saves (desk : ConfigDesk) : Saves desk (save desk) := by
  rw [save, Act.get_bind]
  cases kept : desk.config.savedPath with
  | none => exact .nowhere kept
  | some path =>
      dsimp only
      split
      next can =>
        rw [writeFile, Act.get_bind]
        cases written : desk.files.write path (Json.write desk.config.savedValues) with
        | error fault => exact .refused kept written
        | ok files => exact .whole kept (desk.config.canSave_iff.mp can) written
      next cannot =>
        rw [writeFile, bind_assoc, Act.get_bind]
        cases written : desk.files.write path (Json.writeStart desk.config.savedValues) with
        | error fault => exact .refused kept written
        | ok files => exact .begun kept (cannot ∘ desk.config.canSave_iff.mpr) written

/-- Saving can change the file and nothing else. -/
theorem Saves.same (saves : Saves desk result) :
    (Act.stateOf result).config = desk.config ∧ (Act.stateOf result).journal = desk.journal ∧
      ((Act.stateOf result).files = desk.files ∨ ∃ path text,
        desk.files.write path text = .ok (Act.stateOf result).files) := by
  cases saves with
  | nowhere => exact ⟨rfl, rfl, .inl rfl⟩
  | whole kept can written => exact ⟨rfl, rfl, .inr ⟨_, _, written⟩⟩
  | refused => exact ⟨rfl, rfl, .inl rfl⟩
  | begun kept cannot written => exact ⟨rfl, rfl, .inr ⟨_, _, written⟩⟩

/-- What is saved without fail is in the file, if there is one to save it in. -/
theorem save_eq_ok (saved : save desk = .ok () after) :
    after = { desk with files := after.files } ∧
      (∀ path, desk.config.savedPath = some path → desk.config.CanSave ∧
        desk.files.write path (Json.write desk.config.savedValues) = .ok after.files) ∧
      (desk.config.savedPath = none → after.files = desk.files) := by
  have ends := saves desk
  rw [saved] at ends
  cases ends with
  | nowhere none =>
      refine ⟨rfl, fun path kept => ?_, fun _ => rfl⟩
      cases none.symm.trans kept
  | whole kept can written =>
      refine ⟨rfl, fun path again => ?_, fun none => ?_⟩
      · cases kept.symm.trans again
        exact ⟨can, written⟩
      · cases none.symm.trans kept

/-- Settings are not saved where nothing can be written. -/
theorem save_of_refused {path : String} {fault : Fault}
    (kept : desk.config.savedPath = some path)
    (refused : ∀ text, desk.files.write path text = .error fault) :
    save desk = .error fault desk := by
  have wrote (text : String) : writeFile path text desk = .error fault desk := by
    rw [writeFile, Act.get_bind, refused]
    rfl
  rw [save, Act.get_bind, kept]
  dsimp only
  split
  · exact wrote _
  · exact Act.bind_of_error _ (wrote _)

/-- Settings that are kept nowhere, or in a file that can be written, with values that can be
written out. -/
structure Savable (desk : ConfigDesk) : Prop where
  takes : desk.files.CanKeep desk.config.savedPath
  can : desk.config.savedPath ≠ none → desk.config.CanSave

theorem save_of_takes (desk : ConfigDesk) {path : String} {place : Place}
    (kept : desk.config.savedPath = some path) (takes : desk.files.Takes path place)
    (can : desk.config.CanSave) :
    save desk = .ok () { desk with
      files := desk.files.put place (Json.write desk.config.savedValues) } := by
  have written : desk.files.write path (Json.write desk.config.savedValues) = .ok _ :=
    Files.write_eq_ok_iff.mpr ⟨place, takes, rfl⟩
  rw [save, Act.get_bind, kept]
  dsimp only
  rw [if_pos (desk.config.canSave_iff.mpr can), writeFile, Act.get_bind, written]
  rfl

theorem save_of_cannot {path : String} {place : Place} (kept : desk.config.savedPath = some path)
    (takes : desk.files.Takes path place) (cannot : ¬desk.config.CanSave) :
    save desk = .error (.tooManyDigits Platform.digits) { desk with
      files := desk.files.put place (Json.writeStart desk.config.savedValues) } := by
  have written : desk.files.write path (Json.writeStart desk.config.savedValues) = .ok _ :=
    Files.write_eq_ok_iff.mpr ⟨place, takes, rfl⟩
  rw [save, Act.get_bind, kept]
  dsimp only
  rw [if_neg (cannot ∘ desk.config.canSave_iff.mp), writeFile, bind_assoc, Act.get_bind, written]
  rfl

/-- Settings are saved exactly where they can be. -/
theorem savable_iff : desk.Savable ↔ ∃ files, save desk = .ok () { desk with files } := by
  cases kept : desk.config.savedPath with
  | none =>
      refine iff_of_true ⟨?_, fun some => absurd kept some⟩ ⟨desk.files, ?_⟩
      · rw [kept]
        rintro _ ⟨⟩
      · rw [save, Act.get_bind, kept]
        rfl
  | some path =>
      constructor
      · rintro ⟨takes, can⟩
        obtain ⟨place, takes⟩ := takes path kept
        exact ⟨_, save_of_takes desk kept takes (can (by rw [kept]; nofun))⟩
      · rintro ⟨files, saved⟩
        obtain ⟨can, written⟩ := (save_eq_ok saved).2.1 path kept
        obtain ⟨place, takes, _⟩ := Files.write_eq_ok_iff.mp written
        refine ⟨?_, fun _ => can⟩
        rw [kept]
        rintro _ ⟨⟩
        exact ⟨place, takes⟩

variable {key : String} {value : Datum} {saving : Bool}

/-- What comes of changing a setting: it is refused, or made and told of, or made and not saved. -/
inductive ChangeEnds (desk : ConfigDesk) (key : String) (value : Datum) (saving : Bool) :
    EStateM.Result Fault ConfigDesk (List Notice) → Prop
  | refused {fault : Fault} (because : desk.config.entry key = .error fault ∨
      ∃ entry, desk.config.entry key = .ok entry ∧ entry.set value = .error fault) :
      ChangeEnds desk key value saving (.error fault desk)
  | made {entry changed : ConfigEntry} {differs : Bool} {after : ConfigDesk}
      (found : desk.config.entry key = .ok entry)
      (given : entry.set value = .ok (changed, differs))
      (saved : (if differs && saving then save else pure ())
        { desk with config := desk.config.putEntry changed } = .ok () after)
      (config : after.config = desk.config.putEntry changed)
      (journal : after.journal = desk.journal) :
      ChangeEnds desk key value saving
        (.ok (noticesOf differs changed.value (desk.config.connected key)) after)
  | unsaved {entry changed : ConfigEntry} {fault : Fault} {after : ConfigDesk}
      (found : desk.config.entry key = .ok entry)
      (given : entry.set value = .ok (changed, true)) (asked : saving = true)
      (failed : save { desk with config := desk.config.putEntry changed } = .error fault after) :
      ChangeEnds desk key value saving (.error fault after)

theorem changeEnds (desk : ConfigDesk) (key : String) (value : Datum) (saving : Bool) :
    ChangeEnds desk key value saving (change key value saving desk) := by
  rw [change, Act.get_bind]
  cases found : desk.config.entry key with
  | error fault => exact .refused (.inl found)
  | ok entry =>
      rw [Act.ofExcept_ok_bind]
      cases given : entry.set value with
      | error fault => exact .refused (.inr ⟨entry, found, given⟩)
      | ok outcome =>
          obtain ⟨changed, differs⟩ := outcome
          rw [Act.ofExcept_ok_bind]
          dsimp only
          rw [Act.modify_bind]
          cases differs with
          | false => exact .made found given rfl rfl rfl
          | true =>
              cases saving with
              | false => exact .made found given rfl rfl rfl
              | true =>
                  simp only [if_true]
                  have same := (saves { desk with config := desk.config.putEntry changed }).same
                  cases saved : save { desk with config := desk.config.putEntry changed } with
                  | error fault after =>
                      rw [Act.bind_of_error _ saved]
                      exact .unsaved found given rfl saved
                  | ok _ after =>
                      rw [saved] at same
                      obtain ⟨config, journal, _⟩ := same
                      rw [Act.bind_of_ok _ saved, Act.get_bind]
                      change after.config = _ at config
                      rw [config]
                      exact .made found given saved config journal

/-- A value that no setting of that name can have is refused, and nothing is changed. -/
theorem change_of_refused {fault : Fault} (because : desk.config.entry key = .error fault ∨
    ∃ entry, desk.config.entry key = .ok entry ∧ entry.set value = .error fault) :
    change key value saving desk = .error fault desk := by
  rw [change, Act.get_bind]
  rcases because with unknown | ⟨entry, found, rejected⟩
  · rw [unknown]
    rfl
  · rw [found, Act.ofExcept_ok_bind, rejected]
    rfl

/-- A value that can be set is set, and if it differs it is saved where that is asked for. -/
theorem change_of_set {entry changed : ConfigEntry} {differs : Bool}
    (found : desk.config.entry key = .ok entry) (given : entry.set value = .ok (changed, differs))
    (saved : (if differs && saving then save else pure ())
      { desk with config := desk.config.putEntry changed } = .ok () after) :
    change key value saving desk =
      .ok (noticesOf differs changed.value (desk.config.connected key)) after := by
  have ends := changeEnds desk key value saving
  generalize change key value saving desk = result at ends
  cases ends with
  | refused because =>
      rcases because with unknown | ⟨_, again, rejected⟩
      · cases found.symm.trans unknown
      · cases found.symm.trans again
        cases given.symm.trans rejected
  | made foundAgain givenAgain savedAgain =>
      cases found.symm.trans foundAgain
      cases given.symm.trans givenAgain
      cases saved.symm.trans savedAgain
      rfl
  | unsaved foundAgain givenAgain asked failed =>
      cases found.symm.trans foundAgain
      cases given.symm.trans givenAgain
      rw [asked] at saved
      cases saved.symm.trans failed

/-- A value that is set and cannot be saved is set all the same. -/
theorem change_of_unsaved {entry changed : ConfigEntry} {fault : Fault}
    (found : desk.config.entry key = .ok entry) (given : entry.set value = .ok (changed, true))
    (failed : save { desk with config := desk.config.putEntry changed } = .error fault after) :
    change key value true desk = .error fault after := by
  rw [change, Act.get_bind, found, Act.ofExcept_ok_bind, given, Act.ofExcept_ok_bind]
  dsimp only
  rw [Act.modify_bind, if_pos rfl, if_pos rfl]
  exact Act.bind_of_error _ failed

/-- A value that can be set is set without fail where it need not be saved or can be. It is saved if
it differs, if that is asked for and if there is a file for it, and otherwise no file is written. -/
theorem change_of_savable {entry changed : ConfigEntry} {differs : Bool}
    (found : desk.config.entry key = .ok entry) (given : entry.set value = .ok (changed, differs))
    (savable : differs = true → saving = true →
      ({ desk with config := desk.config.putEntry changed } : ConfigDesk).Savable) :
    ∃ files, change key value saving desk =
        .ok (noticesOf differs changed.value (desk.config.connected key))
          ⟨desk.config.putEntry changed, files, desk.journal⟩ ∧
      (differs = true → saving = true → ∀ path, desk.config.savedPath = some path →
        (desk.config.putEntry changed).CanSave ∧
          desk.files.write path (Json.write (desk.config.putEntry changed).savedValues) =
            .ok files) ∧
      (differs = false ∨ saving = false ∨ desk.config.savedPath = none → files = desk.files) := by
  cases asked : differs && saving with
  | false =>
      have quiet : (if differs && saving then save else pure ())
          { desk with config := desk.config.putEntry changed } =
            .ok () { desk with config := desk.config.putEntry changed } := by
        rw [asked]
        rfl
      refine ⟨desk.files, change_of_set found given quiet, ?_, fun _ => rfl⟩
      rintro rfl rfl
      cases asked
  | true =>
      obtain ⟨rfl, rfl⟩ := Bool.and_eq_true_iff.mp asked
      obtain ⟨files, saved⟩ := savable_iff.mp (savable rfl rfl)
      obtain ⟨_, written, nowhere⟩ := save_eq_ok saved
      refine ⟨files, change_of_set found given saved, fun _ _ => written, ?_⟩
      rintro (same | same | none)
      · cases same
      · cases same
      · exact nowhere none

end ConfigDesk

end ScriptCatalog
