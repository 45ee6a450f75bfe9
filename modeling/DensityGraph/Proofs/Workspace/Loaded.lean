import DensityGraph.Proofs.Document.Workspace
import DensityGraph.Proofs.Table.Accepted
import DensityGraph.Proofs.Workspace.Damaged
import DensityGraph.Proofs.Workspace.Reachable

/-!
# Workspaces that have been loaded

Texts and files come from anywhere.  A document is decoded part by part, of which
only the table is checked at once, and the workspace made of the parts is checked
as a whole.  It is let through exactly if it is intact, a condition on its parts
alone, and whatever else is wrong is reported as corruption.
-/

namespace DensityGraph

variable {w : Workspace} {e : ModelError} {table : Table} {name path : String} {directory : Directory} {bytes : Bytes}

namespace Workspace

/-- What is promised of a workspace that has been loaded. -/
structure Intact (w : Workspace) : Prop where
  graph : WellFormedGraph w.table.nodes
  /-- a name is looked up at exactly the place of the node that has it -/
  indexed : ∀ name place, w.table.indexOf? name = some place ↔
    ∃ node, w.table.nodes[place]? = some node ∧ node.name = name
  densities : ∀ d, .density d ∈ w.table.nodes → w.table.validate d false = .ok ()
  members : ∀ set names, (set, names) ∈ w.sets.entries →
    ∀ name ∈ names, ∃ p, .parameter p ∈ w.table.nodes ∧ p.name = name
  snapshots : ∀ key snapshot, (key, snapshot) ∈ w.snapshots.entries →
    snapshot.name = key ∧ ∀ name value, (name, value) ∈ snapshot.values.entries →
      value.isFinite = true ∧ ∃ held bounds, .parameter ⟨name, .free held bounds⟩ ∈ w.table.nodes
  datasets : ∀ key d, (key, d) ∈ w.datasets.entries →
    d.name = key ∧ d.columns.Nodup ∧
      ∀ row ∈ d.rows, row.length = d.columns.length ∧ ∀ value ∈ row, value.isFinite = true

end Workspace

/-- The free parameters are those that stand in the table with a value. -/
theorem Table.isFree_iff_mem (distinct : table.names.Nodup) :
    table.IsFree name ↔ ∃ held bounds, .parameter ⟨name, .free held bounds⟩ ∈ table.nodes := by
  constructor
  · rintro ⟨⟨own, ⟨held, bounds⟩ | formula⟩, found, free⟩
    · obtain ⟨member, rfl⟩ := mem_of_find? (parameter_eq_ok.1 found)
      exact ⟨held, bounds, member⟩
    · cases free
  · rintro ⟨held, bounds, member⟩
    exact ⟨⟨name, .free held bounds⟩, parameter_eq_ok.2 ((find?_eq_some_iff distinct).2 ⟨member, rfl⟩), rfl⟩

theorem Snapshot.fits_iff_mem {key : String} {snapshot : Snapshot} (distinct : table.names.Nodup) :
    snapshot.Fits table key ↔
      snapshot.name = key ∧ ∀ name value, (name, value) ∈ snapshot.values.entries →
        value.isFinite = true ∧ ∃ held bounds, .parameter ⟨name, .free held bounds⟩ ∈ table.nodes := by
  have admits : ∀ name value, table.Admits name value ↔
      value.isFinite = true ∧ ∃ held bounds, .parameter ⟨name, .free held bounds⟩ ∈ table.nodes := by
    intro name value
    rw [Table.Admits, Table.isFree_iff_mem distinct, and_comm]
  constructor
  · exact fun fits => ⟨fits.named.symm, fun name value member => (admits name value).1 (fits.admits _ member)⟩
  · exact fun ⟨named, held⟩ => ⟨named.symm, fun entry member => (admits _ _).2 (held entry.1 entry.2 member)⟩

theorem Dataset.fits_iff {key : String} {d : Dataset} :
    d.Fits key ↔ d.name = key ∧ d.columns.Nodup ∧
      ∀ row ∈ d.rows, row.length = d.columns.length ∧ ∀ value ∈ row, value.isFinite = true := by
  constructor
  · rintro ⟨named, distinct, width, finite⟩
    exact ⟨named.symm, distinct, fun row member => ⟨width row member, finite row member⟩⟩
  · rintro ⟨named, distinct, rows⟩
    exact ⟨named.symm, distinct, fun row member => (rows row member).1, fun row member => (rows row member).2⟩

namespace Workspace

/-- A workspace is intact if its table is well-formed and its parts fit together. -/
theorem intact_iff : w.Intact ↔ w.table.WellFormed ∧ w.Consistent := by
  constructor
  · intro intact
    have wellFormed := Table.wellFormed_iff_graph.2 intact.graph
    have distinct := wellFormed.distinct
    refine ⟨wellFormed, ?_, ?_, ?_, ?_⟩
    · exact fun d member => Table.validate_eq_ok.1 (intact.densities d member)
    · intro entry member name inside
      exact (Table.hasParameter_iff_mem distinct).2 (intact.members entry.1 entry.2 member name inside)
    · exact fun entry member => (Snapshot.fits_iff_mem distinct).2 (intact.snapshots entry.1 entry.2 member)
    · exact fun entry member => Dataset.fits_iff.2 (intact.datasets entry.1 entry.2 member)
  · rintro ⟨wellFormed, consistent⟩
    have distinct := wellFormed.distinct
    constructor
    case graph => exact Table.wellFormed_iff_graph.1 wellFormed
    case indexed => exact fun name place => Table.indexOf?_eq_some_iff distinct
    case densities => exact fun d member => Table.validate_eq_ok.2 (consistent.sensible d member)
    case members =>
      intro set names member name inside
      exact (Table.hasParameter_iff_mem distinct).1 (consistent.members _ member name inside)
    case snapshots =>
      exact fun key snapshot member => (Snapshot.fits_iff_mem distinct).1 (consistent.snapshots _ member)
    case datasets => exact fun key d member => Dataset.fits_iff.1 (consistent.datasets _ member)

/-- What the check reports is corruption, whatever kind of error lies behind it. -/
theorem exists_asCorrupt (e : ModelError) : ∃ corruption, asCorrupt e = .corrupt corruption := by
  cases e <;> exact ⟨_, rfl⟩

theorem isCorrupt_of_mapError {α : Type} {result : Except ModelError α}
    (failed : result.mapError asCorrupt = .error e) : ∃ corruption, e = .corrupt corruption := by
  obtain ⟨cause, _, rfl⟩ := mapError_eq_error.1 failed
  exact exists_asCorrupt cause

theorem isCorrupt_of_checkSet {members : List String} (failed : checkSet table name members = .error e) :
    ∃ corruption, e = .corrupt corruption := by
  unfold checkSet at failed
  split at failed
  · cases failed
  · exact ⟨_, (Except.error.inj failed).symm⟩

theorem isCorrupt_of_checkDataset {d : Dataset} (failed : checkDataset name d = .error e) :
    ∃ corruption, e = .corrupt corruption := by
  unfold checkDataset at failed
  split at failed
  · exact isCorrupt_of_mapError failed
  · exact ⟨_, (Except.error.inj failed).symm⟩

end Workspace

theorem Snapshots.isCorrupt_of_check {snapshots : Snapshots} (failed : snapshots.check table = .error e) :
    ∃ corruption, e = .corrupt corruption := by
  unfold check at failed
  obtain valuesFailed | ⟨_, _, keysFailed⟩ := bind_eq_error.1 failed
  · obtain ⟨snapshot, _, failed⟩ := exists_of_forM_eq_error valuesFailed
    unfold Snapshot.checkValues at failed
    split at failed
    · cases failed
    · exact ⟨_, (Except.error.inj failed).symm⟩
  · obtain ⟨entry, _, failed⟩ := exists_of_forM_eq_error keysFailed
    unfold Snapshot.checkKey at failed
    split at failed
    · cases failed
    · exact ⟨_, (Except.error.inj failed).symm⟩

namespace Workspace

theorem isCorrupt_of_check (failed : w.check = .error e) : ∃ corruption, e = .corrupt corruption := by
  simp only [check, bind_eq_error] at failed
  obtain failed | ⟨_, _, failed | ⟨_, _, failed | ⟨_, _, failed⟩⟩⟩ := failed
  · obtain ⟨d, _, failed⟩ := exists_of_forM_eq_error failed
    exact isCorrupt_of_mapError failed
  · obtain ⟨entry, _, failed⟩ := exists_of_forM_eq_error failed
    exact isCorrupt_of_checkSet failed
  · exact Snapshots.isCorrupt_of_check failed
  · obtain ⟨entry, _, failed⟩ := exists_of_forM_eq_error failed
    exact isCorrupt_of_checkDataset failed

theorem intact_of_valid (valid : w.Valid) : w.Intact :=
  intact_iff.2 ⟨valid.coherent.toWellFormed, valid.toConsistent⟩

theorem Intact.check_eq_ok (intact : w.Intact) : w.check = .ok () :=
  Workspace.check_eq_ok.2 (intact_iff.1 intact).2

theorem ofText_eq_ok_iff_intact {text : String} :
    ofText text = .ok w ↔ (Json.read text.toList).decode ofJson = .ok w ∧ w.Intact := by
  constructor
  · intro read
    refine ⟨?_, intact_of_valid (valid_of_ofText read)⟩
    simp only [ofText, bind_eq_ok, mapError_eq_ok, exists_unit, pure_eq_ok] at read
    obtain ⟨_, decoded, _, rfl⟩ := read
    exact decoded
  · rintro ⟨decoded, intact⟩
    simp only [ofText, bind_eq_ok, mapError_eq_ok, exists_unit, pure_eq_ok]
    exact ⟨w, decoded, intact.check_eq_ok, rfl⟩

theorem isCorrupt_of_ofText {text : String} (failed : ofText text = .error e) :
    ∃ corruption, e = .corrupt corruption := by
  simp only [ofText, bind_eq_error, mapError_eq_error] at failed
  obtain ⟨refusal, _, rfl⟩ | ⟨decoded, _, failed | ⟨_, _, failed⟩⟩ := failed
  · exact ⟨_, rfl⟩
  · exact isCorrupt_of_check failed
  · cases failed

end Workspace

/-- What cannot be opened or read is reported with the path. -/
theorem Storage.exists_of_contents_eq_error (failed : contents directory path = .error e) :
    ∃ action cause, e = .file action path cause ∧ (action = .openFile ∨ action = .read) := by
  simp only [contents, bind_eq_error, mapError_eq_error] at failed
  obtain ⟨cause, _, rfl⟩ | ⟨_, _, ⟨cause, _, rfl⟩⟩ := failed
  · exact ⟨_, cause, rfl, .inl rfl⟩
  · exact ⟨_, cause, rfl, .inr rfl⟩

namespace Workspace

theorem load_eq_ok_iff_intact (found : Storage.contents directory path = .ok bytes) :
    load directory path = .ok w ↔ Storage.valueOf ofJson path bytes = .ok w ∧ w.Intact := by
  constructor
  · intro read
    refine ⟨?_, intact_of_valid (valid_of_load read)⟩
    simp only [load, found, ok_bind, ofArtifact, bind_eq_ok, exists_unit, pure_eq_ok] at read
    obtain ⟨_, decoded, _, rfl⟩ := read
    exact decoded
  · rintro ⟨decoded, intact⟩
    simp only [load, found, ok_bind, ofArtifact, bind_eq_ok, exists_unit, pure_eq_ok]
    exact ⟨w, decoded, intact.check_eq_ok, rfl⟩

theorem isCorrupt_of_load (found : Storage.contents directory path = .ok bytes)
    (failed : load directory path = .error e) : ∃ corruption, e = .corrupt corruption := by
  simp only [load, found, ok_bind, ofArtifact, bind_eq_error] at failed
  obtain failed | ⟨_, _, failed | ⟨_, _, failed⟩⟩ := failed
  · exact Storage.isCorrupt_of_valueOf failed
  · exact isCorrupt_of_check failed
  · cases failed

/-- Texts and files that can be read give exactly the intact workspaces that they
hold, and nothing but corruption otherwise.  Other errors are those of opening or
reading a file. -/
theorem intact_or_corrupt :
    (∀ text,
      (∀ w, ofText text = .ok w ↔ (Json.read text.toList).decode ofJson = .ok w ∧ w.Intact) ∧
        ((∃ w, ofText text = .ok w) ∨ ∃ corruption, ofText text = .error (.corrupt corruption))) ∧
    ∀ directory path,
      (∀ bytes, Storage.contents directory path = .ok bytes →
        (∀ w, load directory path = .ok w ↔ Storage.valueOf ofJson path bytes = .ok w ∧ w.Intact) ∧
          ((∃ w, load directory path = .ok w) ∨
            ∃ corruption, load directory path = .error (.corrupt corruption))) ∧
      ∀ e, Storage.contents directory path = .error e →
        load directory path = .error e ∧
          ∃ action cause, e = .file action path cause ∧ (action = .openFile ∨ action = .read) := by
  refine ⟨fun text => ⟨fun w => ofText_eq_ok_iff_intact, ?_⟩, fun directory path => ⟨?_, ?_⟩⟩
  · cases read : ofText text with
    | ok w => exact .inl ⟨w, rfl⟩
    | error e =>
        obtain ⟨corruption, rfl⟩ := isCorrupt_of_ofText read
        exact .inr ⟨corruption, rfl⟩
  · intro bytes found
    refine ⟨fun w => load_eq_ok_iff_intact found, ?_⟩
    cases read : load directory path with
    | ok w => exact .inl ⟨w, rfl⟩
    | error e =>
        obtain ⟨corruption, rfl⟩ := isCorrupt_of_load found read
        exact .inr ⟨corruption, rfl⟩
  · intro e failed
    refine ⟨?_, Storage.exists_of_contents_eq_error failed⟩
    simp only [load, failed]
    rfl

/-- A set of an empty workspace has a member that is not there. -/
def strayMember : Workspace := { new "w" ⟨0, 0, 0⟩ with sets := NameMap.empty.insert "s" ["x"] }

/-- The text of an empty workspace is read intact and with a stray member it is
corrupt, as a file without bytes is; without a file there is nothing to be read. -/
theorem intact_or_corrupt_strayMember :
    (∃ w, ofText (new "w" ⟨0, 0, 0⟩).toText = .ok w ∧ w.Intact) ∧
      (∃ corruption, ofText strayMember.toText = .error (.corrupt corruption)) ∧
      Storage.contents (Directory.empty.put "w.kmdl" []) "w.kmdl" = .ok [] ∧
      (∃ corruption, load (Directory.empty.put "w.kmdl" []) "w.kmdl" = .error (.corrupt corruption)) ∧
      Storage.contents Directory.empty "w.kmdl" = .error (.file .openFile "w.kmdl" .notFound) ∧
      load Directory.empty "w.kmdl" = .error (.file .openFile "w.kmdl" .notFound) := by
  obtain ⟨texts, files⟩ := intact_or_corrupt
  have read : (ofText (new "w" ⟨0, 0, 0⟩).toText).toBool = true := by decide +kernel
  have refused : (ofText strayMember.toText).toBool = false := by decide +kernel
  have found : Storage.contents (Directory.empty.put "w.kmdl" []) "w.kmdl" = .ok [] := by decide +kernel
  have refusedFile : (load (Directory.empty.put "w.kmdl" []) "w.kmdl").toBool = false := by decide +kernel
  have missing : Storage.contents Directory.empty "w.kmdl" = .error (.file .openFile "w.kmdl" .notFound) := by
    decide +kernel
  refine ⟨?_, ?_, found, ?_, missing, ((files _ _).2 _ missing).1⟩
  · obtain ⟨w, accepted⟩ := exists_ok_of_toBool read
    exact ⟨w, accepted, (((texts _).1 w).1 accepted).2⟩
  · obtain ⟨w, accepted⟩ | corrupt := (texts strayMember.toText).2
    · rw [accepted] at refused
      cases refused
    · exact corrupt
  · obtain ⟨w, accepted⟩ | corrupt := ((files _ _).1 _ found).2
    · rw [accepted] at refusedFile
      cases refusedFile
    · exact corrupt

end Workspace

end DensityGraph
