import DensityGraph.Workspace.Storage
import DensityGraph.Proofs.Artifact
import DensityGraph.Proofs.Document.Model
import DensityGraph.Proofs.Workspace.Valid

/-!
# Workspaces from documents

What is read from a document and passes the check is a valid workspace: the
table is checked when it is read, names are sorted as they come in, and the
check covers the rest.
-/

namespace DensityGraph

open Json.Decode (record_invariant required_eq_ok)

variable {value : Json}

theorem NameMap.sorted_of_ofJson {α : Type} {item : Json.Decoder α} {map : NameMap α}
    (read : ofJson item value = .ok map) :
    map.Sorted ∧ ∀ entry ∈ map.entries, ∃ part, item part = .ok entry.2 := by
  simp only [ofJson, bind_eq_ok, pure_eq_ok, Json.Decode.map_eq_ok] at read
  obtain ⟨entries, ⟨given, _, each⟩, rfl⟩ := read
  refine ⟨sorted_ofList entries, forall_ofList ?_⟩
  intro entry member
  obtain ⟨field, _, itemRead, _⟩ := exists_left_of_forall₂ each member
  exact ⟨field.2, itemRead⟩

theorem Snapshot.sorted_of_ofJson {snapshot : Snapshot} (read : ofJson value = .ok snapshot) :
    snapshot.values.Sorted := by
  simp only [ofJson, bind_eq_ok, required_eq_ok, pure_eq_ok] at read
  obtain ⟨state, recordRead, name, _, values, valuesEq, takenAt, _, rfl⟩ := read
  let holds (state : Option String × Option (NameMap Float) × Option Timestamp) : Prop :=
    ∀ values, state.2.1 = some values → values.Sorted
  have invariant : holds state := by
    apply record_invariant holds recordRead
    · intro _ same
      cases same
    · rintro ⟨name, values, takenAt⟩ key part next before stepped held same
      dsimp only at stepped
      split at stepped
      · obtain ⟨_, _, nextEq⟩ := bind_eq_ok.1 stepped
        obtain rfl := pure_eq_ok.1 nextEq
        exact before held same
      · obtain ⟨partHeld, partRead, nextEq⟩ := bind_eq_ok.1 stepped
        obtain rfl := pure_eq_ok.1 nextEq
        obtain rfl := Option.some.inj same
        exact (NameMap.sorted_of_ofJson partRead).1
      · obtain ⟨_, _, nextEq⟩ := bind_eq_ok.1 stepped
        obtain rfl := pure_eq_ok.1 nextEq
        exact before held same
  exact invariant values valuesEq

namespace Workspace

variable {w : Workspace}

/-- What holds of the parts of a workspace as soon as they have been read. -/
structure Parts.Sound (parts : Parts) : Prop where
  table : ∀ table, parts.table = some table → table.WellFormed ∧ ∀ p, .parameter p ∈ table.nodes → p.Compiled
  sets : ∀ sets, parts.sets = some sets → sets.Sorted
  snapshots : ∀ snapshots, parts.snapshots = some snapshots →
    snapshots.Sorted ∧ ∀ entry ∈ snapshots.entries, entry.2.values.Sorted
  datasets : ∀ datasets, parts.datasets = some datasets → datasets.Sorted

theorem Parts.Sound.read {parts next : Parts} (sound : parts.Sound) {key : String}
    (stepped : parts.read key value = .ok next) : next.Sound := by
  unfold Parts.read at stepped
  split at stepped
  all_goals
    obtain ⟨part, partRead, nextEq⟩ := bind_eq_ok.1 stepped
    obtain rfl := pure_eq_ok.1 nextEq
  case h_1 => exact ⟨sound.table, sound.sets, sound.snapshots, sound.datasets⟩
  case h_2 => exact ⟨sound.table, sound.sets, sound.snapshots, sound.datasets⟩
  case h_3 =>
    refine ⟨?_, sound.sets, sound.snapshots, sound.datasets⟩
    intro table same
    obtain rfl := Option.some.inj same
    exact Table.wellFormed_of_ofJson partRead
  case h_4 =>
    refine ⟨sound.table, ?_, sound.snapshots, sound.datasets⟩
    intro sets same
    obtain rfl := Option.some.inj same
    exact (NameMap.sorted_of_ofJson partRead).1
  case h_5 =>
    refine ⟨sound.table, sound.sets, ?_, sound.datasets⟩
    intro snapshots same
    obtain rfl := Option.some.inj same
    obtain ⟨sorted, each⟩ := NameMap.sorted_of_ofJson partRead
    refine ⟨sorted, ?_⟩
    intro entry member
    obtain ⟨_, snapshotRead⟩ := each entry member
    exact Snapshot.sorted_of_ofJson snapshotRead
  case h_6 =>
    refine ⟨sound.table, sound.sets, sound.snapshots, ?_⟩
    intro datasets same
    obtain rfl := Option.some.inj same
    exact (NameMap.sorted_of_ofJson partRead).1

/-- A workspace that has been read and checked is valid. -/
theorem valid_of_ofJson (read : ofJson value = .ok w) (checked : w.check = .ok ()) : w.Valid := by
  have consistent := check_eq_ok.1 checked
  simp only [ofJson, bind_eq_ok, required_eq_ok, pure_eq_ok] at read
  obtain ⟨parts, recordRead, _, _, _, _, table, tableEq, sets, setsEq, snapshots, snapshotsEq, datasets,
    datasetsEq, rfl⟩ := read
  have sound : parts.Sound := by
    apply record_invariant Parts.Sound recordRead
    · constructor
      all_goals
        intro _ same
        cases same
    · exact fun _ _ _ _ before stepped => before.read stepped
  obtain ⟨wellFormed, compiled⟩ := sound.table table tableEq
  obtain ⟨snapshotsSorted, valuesSorted⟩ := sound.snapshots snapshots snapshotsEq
  exact ⟨consistent, ⟨wellFormed, compiled, consistent.sensible⟩, sound.sets sets setsEq, snapshotsSorted,
    valuesSorted, sound.datasets datasets datasetsEq⟩

/-- A workspace that is read from a text is that of a value, and has been checked. -/
theorem exists_value_of_ofText {text : String} (read : ofText text = .ok w) :
    ∃ value, ofJson value = .ok w ∧ w.check = .ok () := by
  simp only [ofText, bind_eq_ok, mapError_eq_ok, exists_unit, pure_eq_ok, Json.Document.decode_eq_ok] at read
  obtain ⟨_, ⟨decoded, _⟩, checked, rfl⟩ := read
  exact ⟨_, decoded, checked⟩

theorem valid_of_ofText {text : String} (read : ofText text = .ok w) : w.Valid := by
  obtain ⟨_, decoded, checked⟩ := exists_value_of_ofText read
  exact valid_of_ofJson decoded checked

end Workspace

end DensityGraph
