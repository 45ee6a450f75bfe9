import DensityGraph.Proofs.Composition.Coherent
import DensityGraph.Proofs.NameMap
import DensityGraph.Snapshot

/-!
# Snapshots

A snapshot holds finite values of free parameters.  Writing them back changes
nothing but the values of these parameters, which stay within their bounds.
-/

namespace DensityGraph

variable {table changed : Table}

/-- Whatever a restore comes to, the table that it leaves is made by setting values, one
after another: what setting a value keeps is kept by the whole. -/
theorem Snapshot.writeBack_induction {holds : Table → Prop} (table : Table) (entries : List (String × Float))
    (initial : holds table)
    (step : ∀ before after name value, holds before → before.setValue name value = .ok after → holds after) :
    holds (writeBack table entries).2 := by
  induction entries generalizing table with
  | nil => exact initial
  | cons entry rest ih =>
      unfold writeBack
      split
      case h_1 => exact initial
      case h_2 middle set => exact ih middle (step _ _ _ _ initial set)

theorem Snapshots.restore_induction {holds : Table → Prop} (snapshots : Snapshots) (table : Table) (name : String)
    (initial : holds table)
    (step : ∀ before after name value, holds before → before.setValue name value = .ok after → holds after) :
    holds (snapshots.restore table name).2 := by
  unfold restore
  split
  case h_1 => exact initial
  case h_2 snapshot found =>
    unfold Snapshot.restore
    split
    · exact initial
    · exact Snapshot.writeBack_induction _ _ initial step

/-- A restore changes values at most, even one that fails. -/
theorem Snapshots.adjusted_restore (wellFormed : table.WellFormed) (snapshots : Snapshots) (name : String) :
    table.Adjusted (snapshots.restore table name).2 :=
  restore_induction snapshots table name wellFormed.adjusted
    fun _ _ _ _ adjusted set => adjusted.trans (adjusted.wellFormed.setValue set)

/-- The value that a free parameter holds is one that a snapshot can keep. -/
theorem Table.WellFormed.admits (wellFormed : table.WellFormed) {name : String} {p : Parameter} {value : Float}
    (found : table.parameter name = .ok p) (holds : p.value? = some value) : table.Admits name value := by
  obtain ⟨own, kind⟩ := p
  cases kind with
  | derived formula => cases holds
  | free held bounds =>
      obtain rfl := Option.some.inj holds
      obtain ⟨member, _⟩ := Table.mem_of_find? (Table.parameter_eq_ok.1 found)
      have sound := wellFormed.sound _ member held bounds rfl
      exact ⟨⟨_, found, rfl⟩, (Parameter.admits_iff.1 sound.2).1⟩

/-- What a stored snapshot has to fulfil. -/
structure Snapshot.Fits (table : Table) (key : String) (snapshot : Snapshot) : Prop where
  named : key = snapshot.name
  admits : ∀ entry ∈ snapshot.values.entries, table.Admits entry.1 entry.2

theorem Snapshot.capture_admits (wellFormed : table.WellFormed) {names : List String} {values kept : NameMap Float}
    (captured : capture table values names = .ok kept) (sorted : values.Sorted)
    (admits : ∀ entry ∈ values.entries, table.Admits entry.1 entry.2) :
    kept.Sorted ∧ ∀ entry ∈ kept.entries, table.Admits entry.1 entry.2 := by
  induction names generalizing values with
  | nil =>
      obtain rfl := Except.ok.inj captured
      exact ⟨sorted, admits⟩
  | cons name rest ih =>
      unfold capture at captured
      split at captured
      case h_1 => cases captured
      case h_2 p found =>
        split at captured
        case h_1 => cases captured
        case h_2 value holds =>
          exact ih captured (sorted.insert name value)
            (NameMap.forall_insert admits (wellFormed.admits found holds))

theorem Snapshot.Fits.extends_changed {key : String} {snapshot : Snapshot} (fits : snapshot.Fits table key)
    (extension : table.Extends changed) : snapshot.Fits changed key := by
  refine ⟨fits.named, ?_⟩
  intro entry member
  obtain ⟨free, finite⟩ := fits.admits entry member
  exact ⟨extension.isFree free, finite⟩

theorem Snapshot.holdsValue_iff {name : String} {value : Float} :
    holdsValue table name value = true ↔ table.Admits name value := by
  unfold holdsValue Table.Admits Table.IsFree
  cases table.parameter name with
  | error e => simp
  | ok p => simp

theorem Snapshot.checkValues_eq_ok {snapshot : Snapshot} :
    snapshot.checkValues table = .ok () ↔
      ∀ entry ∈ snapshot.values.entries, table.Admits entry.1 entry.2 := by
  unfold checkValues
  cases failing : snapshot.values.entries.find? fun entry => !holdsValue table entry.1 entry.2 with
  | none =>
      simp only [true_iff]
      intro entry member
      have holds := List.find?_eq_none.mp failing entry member
      exact holdsValue_iff.1 (by simpa using holds)
  | some entry =>
      have member := List.mem_of_find?_eq_some failing
      have fails := List.find?_some failing
      simp only [reduceCtorEq, false_iff]
      intro admits
      rw [holdsValue_iff.2 (admits entry member)] at fails
      cases fails

theorem Snapshots.check_eq_ok {snapshots : Snapshots} :
    snapshots.check table = .ok () ↔ ∀ entry ∈ snapshots.entries, entry.2.Fits table entry.1 := by
  have checkKey : ∀ (entry : String × Snapshot),
      Snapshot.checkKey entry.1 entry.2 = .ok () ↔ entry.1 = entry.2.name := by
    intro entry
    unfold Snapshot.checkKey
    by_cases named : entry.1 = entry.2.name
    · simp [named]
    · simp [named]
  simp only [check, bind_eq_ok, exists_unit, forM_eq_ok, Snapshot.checkValues_eq_ok, checkKey, NameMap.values,
    List.forall_mem_map]
  constructor
  · exact fun ⟨admits, named⟩ entry member => ⟨named entry member, admits entry member⟩
  · exact fun fits => ⟨fun entry member => (fits entry member).admits, fun entry member => (fits entry member).named⟩

end DensityGraph
