import DensityGraph.Proofs.Snapshot
import DensityGraph.Proofs.Table.Held

/-!
# What a snapshot captures and brings back

A snapshot that is saved has an entry for each of the parameters that it is saved
for, with the value that the parameter holds.  When it is restored, each of these
parameters holds the value of its entry.
-/

namespace DensityGraph

variable {table changed : Table} {names : List String} {name : String} {value : Float}

namespace Snapshot

/-- Whatever has been captured so far is held by the table. -/
theorem holds_of_capture {values kept : NameMap Float} (captured : capture table values names = .ok kept)
    (before : ∀ entry ∈ values.entries, table.Holds entry.1 entry.2) :
    ∀ entry ∈ kept.entries, table.Holds entry.1 entry.2 := by
  induction names generalizing values with
  | nil =>
      obtain rfl := Except.ok.inj captured
      exact before
  | cons first rest ih =>
      unfold capture at captured
      split at captured
      case h_1 => cases captured
      case h_2 p found =>
        split at captured
        case h_1 => cases captured
        case h_2 value held =>
          exact ih captured (NameMap.forall_insert before (Table.holds_of_value? found held))

theorem mem_names_of_capture {values kept : NameMap Float} (captured : capture table values names = .ok kept) :
    name ∈ kept.names ↔ name ∈ values.names ∨ name ∈ names := by
  induction names generalizing values with
  | nil =>
      obtain rfl := Except.ok.inj captured
      simp
  | cons first rest ih =>
      unfold capture at captured
      split at captured
      case h_1 => cases captured
      case h_2 p found =>
        split at captured
        case h_1 => cases captured
        case h_2 value held =>
          rw [ih captured, NameMap.mem_names_insert, List.mem_cons, or_comm (a := name = first), or_assoc]

/-- Entries of other names leave alone what a parameter holds. -/
theorem holds_of_writeBack_others {entries : List (String × Float)} (wellFormed : table.WellFormed)
    (written : writeBack table entries = (.ok (), changed)) (others : ∀ entry ∈ entries, name ≠ entry.1)
    (holds : table.Holds name value) : changed.Holds name value := by
  induction entries generalizing table with
  | nil =>
      obtain ⟨_, rfl⟩ := Prod.mk.inj written
      exact holds
  | cons first rest ih =>
      rw [List.forall_mem_cons] at others
      unfold writeBack at written
      split at written
      case h_1 => cases written
      case h_2 middle set =>
        exact ih (wellFormed.setValue set).wellFormed written others.2
          (holds.setValue_of_ne wellFormed.distinct set others.1)

theorem holds_of_writeBack {entries : List (String × Float)} (wellFormed : table.WellFormed)
    (sorted : NameMap.Sorted ⟨entries⟩) (written : writeBack table entries = (.ok (), changed)) :
    ∀ entry ∈ entries, changed.Holds entry.1 entry.2 := by
  induction entries generalizing table with
  | nil => exact List.forall_mem_nil _
  | cons first rest ih =>
      obtain ⟨least, sortedRest⟩ := List.pairwise_cons.mp sorted
      unfold writeBack at written
      split at written
      case h_1 => cases written
      case h_2 middle set =>
        have adjusted := wellFormed.setValue set
        rw [List.forall_mem_cons]
        constructor
        · apply holds_of_writeBack_others adjusted.wellFormed written _ (Table.holds_of_setValue set)
          intro entry member same
          exact String.lt_irrefl _ (same ▸ least entry member)
        · exact ih adjusted.wellFormed sortedRest written

end Snapshot

namespace Snapshots

variable {snapshots changedSnapshots : Snapshots} {now : Timestamp}

/-- What stands under a name after a snapshot has been saved under it. -/
theorem exists_of_save (wellFormed : table.WellFormed)
    (saved : snapshots.save table name names now = .ok changedSnapshots) :
    ∃ snapshot, changedSnapshots = snapshots.insert name snapshot ∧ snapshot.values.Sorted ∧
      (∀ own, own ∈ snapshot.values.names ↔ own ∈ names) ∧
      ∀ entry ∈ snapshot.values.entries, table.Holds entry.1 entry.2 := by
  unfold save at saved
  split at saved
  case h_1 => cases saved
  case h_2 values captured =>
    obtain ⟨sorted, _⟩ :=
      Snapshot.capture_admits wellFormed captured NameMap.sorted_empty (List.forall_mem_nil _)
    refine ⟨_, (Except.ok.inj saved).symm, sorted, ?_, Snapshot.holds_of_capture captured (List.forall_mem_nil _)⟩
    intro own
    rw [Snapshot.mem_names_of_capture captured]
    simp [NameMap.names, NameMap.empty]

theorem holds_of_restore {snapshot : Snapshot} (wellFormed : table.WellFormed) (sorted : snapshot.values.Sorted)
    (kept : snapshots.get? name = some snapshot) (restored : snapshots.restore table name = (.ok (), changed)) :
    ∀ entry ∈ snapshot.values.entries, changed.Holds entry.1 entry.2 := by
  unfold restore at restored
  rw [kept] at restored
  dsimp only at restored
  unfold Snapshot.restore at restored
  split at restored
  · cases restored
  · exact Snapshot.holds_of_writeBack wellFormed sorted restored

end Snapshots

end DensityGraph
