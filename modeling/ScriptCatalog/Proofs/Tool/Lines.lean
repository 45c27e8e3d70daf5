import ScriptCatalog.Proofs.Catalog.Reachable
import ScriptCatalog.Proofs.Config.Outcomes
import ScriptCatalog.Tool.Run

/-! Lines that the tool writes. Whatever it does but print and complain adds log records and signals
to its journal and nothing else, so that what is written stays as it is. -/

namespace ScriptCatalog

variable [Platform]

namespace JournalEntry

/-- Whether an entry is something that is written for the user. -/
def isLine : JournalEntry → Bool
  | printed _ | complained _ => true
  | event _ | record _ => false

end JournalEntry

namespace Journal

/-- A journal that goes on without lines. -/
def Quiet (before after : Journal) : Prop :=
  ∃ added : Journal, after = before ++ added ∧ ∀ entry ∈ added, entry.isLine = false

theorem quiet_append {journal added : Journal} (silent : ∀ entry ∈ added, entry.isLine = false) :
    Quiet journal (journal ++ added) := ⟨added, rfl, silent⟩

instance : IsPreorder Journal Quiet where
  refl journal := by
    have same : Quiet journal (journal ++ []) := quiet_append (by simp)
    rwa [List.append_nil] at same
  trans first second third left right := by
    obtain ⟨added, rfl, silent⟩ := left
    obtain ⟨more, rfl, silentMore⟩ := right
    rw [List.append_assoc]
    apply quiet_append
    intro entry member
    rcases List.mem_append.mp member with early | late
    · exact silent entry early
    · exact silentMore entry late

theorem quiet_emit (journal : Journal) (event : Event) : Quiet journal (journal.emit event) :=
  quiet_append (by simp [JournalEntry.isLine])

theorem quiet_log (journal : Journal) (level : Level) (channel : Channel) (text : String) :
    Quiet journal (journal.log level channel text) :=
  quiet_append (by simp [JournalEntry.isLine])

/-- The same of states that have a journal. -/
def QuietIn {σ : Type} (journal : σ → Journal) (before after : σ) : Prop :=
  Quiet (journal before) (journal after)

instance {σ : Type} (journal : σ → Journal) : IsPreorder σ (QuietIn journal) where
  refl state := refl_of Quiet (journal state)
  trans _ _ _ left right := trans_of Quiet left right

end Journal

open Journal

variable {α : Type}

/-! What is written. -/

namespace Journal

/-- The entries of a journal that are lines. -/
def lines (journal : Journal) : Journal := journal.filter JournalEntry.isLine

theorem lines_append (journal added : Journal) :
    lines (journal ++ added) = lines journal ++ lines added := List.filter_append journal added

theorem Quiet.lines_eq {before after : Journal} (quiet : Quiet before after) :
    lines after = lines before := by
  obtain ⟨added, rfl, silent⟩ := quiet
  have nothing : lines added = [] := by
    rw [lines, List.filter_eq_nil_iff]
    intro entry member
    rw [silent entry member]
    exact Bool.false_ne_true
  rw [lines_append, nothing, List.append_nil]

end Journal

namespace Tool

theorem output_append (verbose : Bool) (journal added : Journal) :
    output verbose (journal ++ added) = output verbose journal ++ output verbose added := by
  simp [output, String.join_append]

theorem complaints_append (journal added : Journal) :
    complaints (journal ++ added) = complaints journal ++ complaints added := by
  simp [complaints, String.join_append]

theorem output_lines (journal : Journal) : output false journal.lines = output false journal := by
  induction journal with
  | nil => rfl
  | cons entry journal ih =>
      rw [← List.singleton_append, lines_append, output_append, output_append, ih]
      cases entry <;> rfl

theorem complaints_lines (journal : Journal) : complaints journal.lines = complaints journal := by
  induction journal with
  | nil => rfl
  | cons entry journal ih =>
      rw [← List.singleton_append, lines_append, complaints_append, complaints_append, ih]
      cases entry <;> rfl

end Tool

/-! Registering and loading. -/

namespace Registration

theorem quiet_register (types : EnumTypes) (registration : Registration) :
    Act.Moves Quiet (registration.register types) := by
  refine (Act.reads_ofExcept _).moves.bind fun name => ?_
  refine (Act.reads_ofExcept _).moves.bind fun script => ?_
  refine Act.Moves.bind ?_ fun _ => (Act.reads_pure script).moves
  intro journal
  exact quiet_log journal .info .registration _

theorem quiet_registerEntries (types : EnumTypes) (path : String) (index : Nat)
    (entries : List Json) : Act.Moves Quiet (registerEntries types path index entries) := by
  induction entries generalizing index with
  | nil => exact (Act.reads_pure []).moves
  | cons entry entries ih =>
      cases entry with
      | object fields =>
          refine (Act.reads_ofExcept _).moves.bind fun registration => ?_
          refine (quiet_register types registration).bind fun script => ?_
          exact (ih (index + 1)).bind fun scripts => (Act.reads_pure _).moves
      | _ => exact (Act.reads_throw _).moves

theorem quiet_loadFile (types : EnumTypes) (files : Files) (path : String) :
    Act.Moves Quiet (loadFile types files path) := by
  refine (Act.reads_ofExcept _).moves.bind fun entries => ?_
  refine (quiet_registerEntries types path 0 entries).bind fun scripts => ?_
  refine Act.Moves.bind ?_ fun _ => (Act.reads_pure scripts).moves
  intro journal
  exact quiet_log journal .info .scriptFile _

end Registration

/-! Tables and registries. -/

namespace RegistryDesk

theorem quiet_log (level : Level) (text : String) :
    Act.Moves (QuietIn journal) (log level text) :=
  fun desk => Journal.quiet_log desk.journal level .procedures text

theorem quiet_emit (event : Event) : Act.Moves (QuietIn journal) (emit event) :=
  fun desk => Journal.quiet_emit desk.journal event

theorem quiet_change (change : Registry → Registry) :
    Act.Moves (QuietIn journal)
      (modify fun desk => { desk with registry := change desk.registry } : Act RegistryDesk Unit) :=
  fun desk => refl_of Quiet desk.journal

theorem quiet_install (procedure : Procedure) :
    Act.Moves (QuietIn journal) (install procedure) := by
  refine Act.reads_get.moves.bind fun desk => ?_
  refine (Act.reads_ofExcept _).moves.bind fun replaced => ?_
  refine (quiet_change (Registry.put procedure)).bind fun _ => ?_
  exact (quiet_log _ _).bind fun _ => quiet_emit _

theorem quiet_uninstall (name : Datum) : Act.Moves (QuietIn journal) (uninstall name) := by
  refine Act.reads_get.moves.bind fun desk => ?_
  refine (Act.reads_ofExcept _).moves.bind fun installed => ?_
  cases installed with
  | true =>
      refine (quiet_change (Registry.erase name)).bind fun _ => ?_
      exact (quiet_log _ _).bind fun _ => quiet_emit _
  | false => exact quiet_log _ _

end RegistryDesk

namespace Catalog

theorem quiet_onScript (id : ScriptId) (act : ScriptAct α) :
    Act.Moves (QuietIn journal) (onScript id act) := by
  intro catalog
  cases there : catalog.scripts[id]? with
  | none =>
      rw [Act.after_of_error (onScript_absent act there)]
      exact refl_of (QuietIn journal) catalog
  | some script =>
      rw [after_onScript there]
      exact refl_of Quiet catalog.journal

theorem quiet_onRegistry {act : Act RegistryDesk α}
    (quiet : Act.Moves (QuietIn RegistryDesk.journal) act) :
    Act.Moves (QuietIn journal) (onRegistry act) := by
  intro catalog
  unfold Act.after onRegistry
  cases catalog.registry with
  | none => exact refl_of Quiet catalog.journal
  | some registry =>
      have moved := quiet { registry, journal := catalog.journal }
      unfold Act.after at moved
      cases ran : act { registry, journal := catalog.journal } with
      | ok value desk =>
          rw [ran] at moved
          simp only [ran]
          exact moved
      | error fault desk =>
          rw [ran] at moved
          simp only [ran]
          exact moved

theorem quiet_expectRegistry : Act.Moves (QuietIn journal) expectRegistry :=
  (Act.reads_get.bind fun _ => Act.reads_require _ _).moves

theorem quiet_emit (event : Event) : Act.Moves (QuietIn journal) (emit event) :=
  fun catalog => Journal.quiet_emit catalog.journal event

theorem quiet_setEntries (entries : List (Datum × ScriptId)) :
    Act.Moves (QuietIn journal) (setEntries entries) :=
  fun catalog => refl_of Quiet catalog.journal

theorem quiet_install (id : ScriptId) (kind : ProcedureKind) :
    Act.Moves (QuietIn journal) (install id kind) := by
  refine quiet_expectRegistry.bind fun _ => (quiet_onScript id _).bind fun procedure => ?_
  refine (quiet_onRegistry (RegistryDesk.quiet_install procedure)).bind fun _ => ?_
  exact (Act.reads_pure procedure).moves

theorem quiet_uninstall (id : ScriptId) : Act.Moves (QuietIn journal) (uninstall id) := by
  refine quiet_expectRegistry.bind fun _ => (quiet_onScript id _).bind fun name => ?_
  exact quiet_onRegistry (RegistryDesk.quiet_uninstall name)

theorem quiet_retire (name : Datum) (previous : ScriptId) :
    Act.Moves (QuietIn journal) (retire name previous) := by
  refine Act.Moves.bind (fun catalog => ?_) fun _ => (quiet_uninstall previous).bind fun _ => ?_
  · exact Journal.quiet_log catalog.journal .info .scriptTable _
  · exact quiet_onScript previous Script.destroy

theorem quiet_add (id : ScriptId) : Act.Moves (QuietIn journal) (add id) := by
  refine (quiet_onScript id _).bind fun name => Act.reads_get.moves.bind fun catalog => ?_
  refine (Act.reads_ofExcept _).moves.bind fun replaced => (quiet_setEntries _).bind fun _ => ?_
  have finish : Act.Moves (QuietIn journal)
      (do let _ ← install id catalog.table.kind; emit (.added (heard name))) :=
    (quiet_install id _).bind fun _ => quiet_emit _
  cases replaced with
  | none => exact finish
  | some previous =>
      dsimp only
      split
      · exact (quiet_retire name previous).bind fun _ => finish
      · exact finish

theorem quiet_remove (name : Datum) : Act.Moves (QuietIn journal) (remove name) := by
  refine Act.reads_get.moves.bind fun catalog => (Act.reads_ofExcept _).moves.bind fun found => ?_
  cases found with
  | none => exact (Act.reads_throw _).moves
  | some id =>
      refine (quiet_setEntries _).bind fun _ => (quiet_uninstall id).bind fun _ => ?_
      exact (quiet_onScript id _).bind fun _ => quiet_emit _

theorem quiet_removeAll (names : List Datum) : Act.Moves (QuietIn journal) (removeAll names) := by
  induction names with
  | nil => exact (Act.reads_pure ()).moves
  | cons name names ih => exact (quiet_remove name).bind fun _ => ih

theorem quiet_clear : Act.Moves (QuietIn journal) clear := by
  refine Act.reads_get.moves.bind fun catalog => ?_
  exact (Act.reads_ofExcept _).moves.bind fun names => quiet_removeAll names

end Catalog

/-! Settings. -/

namespace ConfigDesk

theorem quiet_log (channel : Channel) (text : String) :
    Act.Moves (QuietIn journal) (log channel text) :=
  fun desk => Journal.quiet_log desk.journal .error channel text

theorem quiet_save : Act.Moves (QuietIn journal) save := by
  intro desk
  obtain ⟨_, journal, _⟩ := (saves desk).same
  change (Act.after save desk).journal = desk.journal at journal
  rw [QuietIn, journal]
  exact refl_of Quiet desk.journal

theorem quiet_loadEntries (saved : Json) (entries : List ConfigEntry) :
    Act.Moves (QuietIn journal) (loadEntries saved entries) := by
  induction entries with
  | nil => exact (Act.reads_pure ()).moves
  | cons entry entries ih =>
      rw [loadEntries]
      cases saved.field? entry.key with
      | none => exact ih
      | some value =>
          refine (Act.reads_ofExcept _).moves.bind fun loaded => ?_
          refine Act.Moves.bind (fun desk => refl_of Quiet desk.journal) fun _ => ?_
          cases loaded.2 with
          | none => exact ih
          | some value => exact (quiet_log _ _).bind fun _ => ih

theorem quiet_load (path : String) : Act.Moves (QuietIn journal) (load path) := by
  refine Act.reads_get.moves.bind fun desk => (Act.reads_ofExcept _).moves.bind fun text => ?_
  cases Json.read text with
  | error cause =>
      cases cause with
      | beyond limit => exact (Act.reads_throw _).moves
      | malformed fault => exact (quiet_log _ _).bind fun _ => quiet_save
  | ok saved =>
      cases saved with
      | object fields => exact quiet_loadEntries _ _
      | _ => exact (quiet_log _ _).bind fun _ => quiet_save

theorem quiet_start : Act.Moves (QuietIn journal) start := by
  refine Act.reads_get.moves.bind fun desk => ?_
  cases desk.config.savedPath with
  | none => exact (Act.reads_pure ()).moves
  | some path =>
      dsimp only
      split
      · exact quiet_load path
      · exact quiet_save

end ConfigDesk

end ScriptCatalog
