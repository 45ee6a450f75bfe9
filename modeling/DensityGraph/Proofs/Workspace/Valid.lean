import DensityGraph.Proofs.Dataset
import DensityGraph.Proofs.Snapshot
import DensityGraph.Workspace.Basic

/-!
# Valid workspaces

The parts of a valid workspace fit its table: sets name parameters, snapshots
hold finite values of free parameters, data sets are rectangular, and all of
them stand under their own names.  Every operation that builds a workspace keeps
it valid, since what the parts need of the table is not lost by any change of
it.  For each operation an equation says when it succeeds and what it has changed
then.
-/

namespace DensityGraph

/-- What a stored data set has to fulfil. -/
structure Dataset.Fits (key : String) (d : Dataset) : Prop where
  named : key = d.name
  rectangular : d.Rectangular

namespace Workspace

variable {w changed : Workspace} {name : String}

/-- The parts of a workspace fit together. -/
structure Consistent (w : Workspace) : Prop where
  sensible : ∀ d, .density d ∈ w.table.nodes → w.table.Sensible d
  members : ∀ entry ∈ w.sets.entries, ∀ member ∈ entry.2, w.table.HasParameter member
  snapshots : ∀ entry ∈ w.snapshots.entries, entry.2.Fits w.table entry.1
  datasets : ∀ entry ∈ w.datasets.entries, entry.2.Fits entry.1

/-- The invariant of workspaces. -/
structure Valid (w : Workspace) : Prop extends w.Consistent where
  coherent : w.table.Coherent
  sets_sorted : w.sets.Sorted
  snapshots_sorted : w.snapshots.Sorted
  values_sorted : ∀ entry ∈ w.snapshots.entries, entry.2.values.Sorted
  datasets_sorted : w.datasets.Sorted

theorem mem_densities {table : Table} {d : Density} : d ∈ table.densities ↔ .density d ∈ table.nodes := by
  unfold Table.densities
  rw [List.mem_filterMap]
  constructor
  · rintro ⟨node, member, isDensity⟩
    cases node with
    | parameter p => cases isDensity
    | density other =>
        obtain rfl := Option.some.inj isDensity
        exact member
  · exact fun member => ⟨_, member, rfl⟩

theorem checkSet_eq_ok {table : Table} {members : List String} :
    checkSet table name members = .ok () ↔ ∀ member ∈ members, table.HasParameter member := by
  have declared : ∀ member, (table.parameter member).toBool = true ↔ table.HasParameter member := by
    intro member
    rw [Table.hasParameter_iff]
    cases table.parameter member <;> simp [Except.toBool]
  unfold checkSet
  cases failing : members.find? fun member => !(table.parameter member).toBool with
  | none =>
      simp only [true_iff]
      intro member inside
      have holds := List.find?_eq_none.mp failing member inside
      exact (declared member).mp (by simpa using holds)
  | some member =>
      have inside := List.mem_of_find?_eq_some failing
      have fails := List.find?_some failing
      simp only [reduceCtorEq, false_iff]
      intro all
      rw [(declared member).mpr (all member inside)] at fails
      cases fails

theorem checkDataset_eq_ok {d : Dataset} : checkDataset name d = .ok () ↔ d.Fits name := by
  unfold checkDataset
  by_cases named : name = d.name
  · rw [if_pos named, mapError_eq_ok, Dataset.check_eq_ok]
    exact ⟨fun rectangular => ⟨named, rectangular⟩, fun fits => fits.rectangular⟩
  · rw [if_neg named]
    simp only [reduceCtorEq, false_iff]
    exact fun fits => named fits.named

/-- The check accepts exactly the workspaces whose parts fit together. -/
theorem check_eq_ok : w.check = .ok () ↔ w.Consistent := by
  simp only [check, bind_eq_ok, exists_unit, forM_eq_ok, mapError_eq_ok, Table.validate_eq_ok, mem_densities,
    checkSet_eq_ok, Snapshots.check_eq_ok, checkDataset_eq_ok]
  constructor
  · exact fun ⟨sensible, members, snapshots, datasets⟩ => ⟨sensible, members, snapshots, datasets⟩
  · exact fun ⟨sensible, members, snapshots, datasets⟩ => ⟨sensible, members, snapshots, datasets⟩

theorem withConfig_eq_ok {sampling : Sampling.Config} {storage : StorageConfig} :
    w.withConfig sampling storage = .ok changed ↔
      sampling.check = .ok () ∧ storage.check = .ok () ∧ changed = { w with sampling, storage } := by
  simp only [withConfig, bind_eq_ok, exists_unit, pure_eq_ok]

theorem declare_eq_ok {text : String} : w.declare text = .ok (name, changed) ↔
    ∃ table, w.table.declare text = .ok (name, table) ∧ changed = { w with table } := by
  simp only [declare, bind_eq_ok, pure_eq_ok, Prod.mk.injEq, Prod.exists]
  constructor
  · rintro ⟨own, table, declared, rfl, rfl⟩
    exact ⟨table, declared, rfl⟩
  · rintro ⟨table, declared, rfl⟩
    exact ⟨name, table, declared, rfl, rfl⟩

theorem compose_eq_ok {owner conditional shared marginal : String} :
    w.compose owner conditional shared marginal = .ok (name, changed) ↔
      ¬ w.table.contains owner = true ∧ ∃ d, w.table.conditionalJoint owner [conditional] shared marginal = .ok d ∧
        ∃ table, w.table.declareDensity d = .ok table ∧ name = owner ∧ changed = { w with table } := by
  simp only [compose, throw_bind, guard_eq_ok, bind_eq_ok, pure_eq_ok, Prod.mk.injEq]

theorem defineSet_eq_ok {members : List String} : w.defineSet name members = .ok changed ↔
    isValidName name = true ∧ ¬ w.sets.contains name = true ∧
      ∃ kept, checkMembers w.table [] members = .ok kept ∧ changed = { w with sets := w.sets.insert name kept } := by
  simp only [defineSet, throw_bind, guard_eq_ok, bind_eq_ok, pure_eq_ok, Bool.not_eq_true', Bool.not_eq_false]

theorem setValue_eq_ok {value : Float} : w.setValue name value = .ok changed ↔
    ∃ table, w.table.setValue name value = .ok table ∧ changed = { w with table } := by
  simp only [setValue, bind_eq_ok, pure_eq_ok]

theorem setRange_eq_ok {lower upper : Float} : w.setRange name lower upper = .ok changed ↔
    ∃ table, w.table.setRange name lower upper = .ok table ∧ changed = { w with table } := by
  simp only [setRange, bind_eq_ok, pure_eq_ok]

theorem saveSnapshot_eq_ok {parameters : List String} {now : Timestamp} :
    w.saveSnapshot name parameters now = .ok changed ↔
      ∃ snapshots, w.snapshots.save w.table name (parameters.map Text.trim) now = .ok snapshots ∧
        changed = { w with snapshots } := by
  simp only [saveSnapshot, bind_eq_ok, pure_eq_ok]

theorem restoreSnapshot_eq_ok : w.restoreSnapshot name = .ok changed ↔
    ∃ table, w.snapshots.restore w.table name = (.ok (), table) ∧ changed = { w with table } := by
  unfold restoreSnapshot restore
  obtain ⟨_ | _, table⟩ := w.snapshots.restore w.table name <;> simp [eq_comm]

theorem importDataset_eq_ok {d : Dataset} : w.importDataset d = .ok changed ↔
    isValidName d.name = true ∧ ¬ w.datasets.contains d.name = true ∧
      changed = { w with datasets := w.datasets.insert d.name d } := by
  simp only [importDataset, throw_bind, guard_eq_ok, pure_eq_ok, Bool.not_eq_true', Bool.not_eq_false]

theorem valid_new (name : String) (now : Timestamp) : (new name now).Valid := by
  refine ⟨⟨Table.coherent_empty.sensible, ?_, ?_, ?_⟩, Table.coherent_empty, NameMap.sorted_empty,
    NameMap.sorted_empty, ?_, NameMap.sorted_empty⟩
  all_goals
    intro _ member
    cases member

theorem Valid.withConfig (valid : w.Valid) {sampling : Sampling.Config} {storage : StorageConfig}
    (configured : w.withConfig sampling storage = .ok changed) : changed.Valid := by
  obtain ⟨_, _, rfl⟩ := withConfig_eq_ok.1 configured
  exact ⟨⟨valid.sensible, valid.members, valid.snapshots, valid.datasets⟩, valid.coherent, valid.sets_sorted,
    valid.snapshots_sorted, valid.values_sorted, valid.datasets_sorted⟩

/-- A larger table takes the place of the old one. -/
theorem Valid.changeTable (valid : w.Valid) {table : Table} (coherent : table.Coherent)
    (extension : w.table.Extends table) : Valid { w with table } := by
  refine ⟨⟨coherent.sensible, ?_, ?_, valid.datasets⟩, coherent, valid.sets_sorted, valid.snapshots_sorted,
    valid.values_sorted, valid.datasets_sorted⟩
  · intro entry member parameter inside
    exact extension.hasParameter (valid.members entry member parameter inside)
  · exact fun entry member => (valid.snapshots entry member).extends_changed extension

theorem Valid.adjust (valid : w.Valid) {table : Table} (adjusted : w.table.Adjusted table) :
    Valid { w with table } :=
  valid.changeTable (valid.coherent.adjusted adjusted) adjusted.extends_changed

theorem Valid.declare (valid : w.Valid) {text : String} (declared : w.declare text = .ok (name, changed)) :
    changed.Valid := by
  obtain ⟨table, tableDeclared, rfl⟩ := declare_eq_ok.1 declared
  have grows := Table.grows_of_declare tableDeclared
  exact valid.changeTable (valid.coherent.grows grows) grows.extends_changed

theorem Valid.compose (valid : w.Valid) {owner conditional shared marginal : String}
    (composed : w.compose owner conditional shared marginal = .ok (name, changed)) : changed.Valid := by
  obtain ⟨_, d, made, table, declared, _, rfl⟩ := compose_eq_ok.1 composed
  have sensible := Table.sensible_of_validate (Declaration.validate_of_conditionalJoint made).1
  exact valid.changeTable (valid.coherent.declareDensity sensible declared)
    (Table.extends_declareDensity declared)

theorem Valid.setValue (valid : w.Valid) {value : Float} (set : w.setValue name value = .ok changed) :
    changed.Valid := by
  obtain ⟨table, tableSet, rfl⟩ := setValue_eq_ok.1 set
  exact valid.adjust (valid.coherent.toWellFormed.setValue tableSet)

theorem Valid.setRange (valid : w.Valid) {lower upper : Float}
    (set : w.setRange name lower upper = .ok changed) : changed.Valid := by
  obtain ⟨table, tableSet, rfl⟩ := setRange_eq_ok.1 set
  exact valid.adjust (valid.coherent.toWellFormed.setRange tableSet)

theorem Valid.restoreSnapshot (valid : w.Valid) (restored : w.restoreSnapshot name = .ok changed) :
    changed.Valid := by
  obtain ⟨table, tableRestored, rfl⟩ := restoreSnapshot_eq_ok.1 restored
  have adjusted := Snapshots.adjusted_restore valid.coherent.toWellFormed w.snapshots name
  rw [tableRestored] at adjusted
  exact valid.adjust adjusted

theorem hasParameter_of_checkMembers {table : Table} {before members kept : List String}
    (checked : checkMembers table before members = .ok kept)
    (earlier : ∀ member ∈ before, table.HasParameter member) : ∀ member ∈ kept, table.HasParameter member := by
  induction members generalizing before with
  | nil =>
      obtain rfl := Except.ok.inj checked
      exact earlier
  | cons first rest ih =>
      unfold checkMembers at checked
      dsimp only at checked
      split at checked
      case h_1 => cases checked
      case h_2 p found =>
        obtain ⟨_, checkedRest⟩ := guard_eq_ok.1 checked
        apply ih checkedRest
        rw [List.forall_mem_append, List.forall_mem_singleton]
        exact ⟨earlier, Table.hasParameter_iff.2 ⟨p, found⟩⟩

theorem Valid.defineSet (valid : w.Valid) {members : List String}
    (defined : w.defineSet name members = .ok changed) : changed.Valid := by
  obtain ⟨_, _, kept, checked, rfl⟩ := defineSet_eq_ok.1 defined
  refine ⟨⟨valid.sensible, ?_, valid.snapshots, valid.datasets⟩, valid.coherent, valid.sets_sorted.insert _ _,
    valid.snapshots_sorted, valid.values_sorted, valid.datasets_sorted⟩
  exact NameMap.forall_insert valid.members (hasParameter_of_checkMembers checked (List.forall_mem_nil _))

theorem Valid.saveSnapshot (valid : w.Valid) {parameters : List String} {now : Timestamp}
    (saved : w.saveSnapshot name parameters now = .ok changed) : changed.Valid := by
  obtain ⟨snapshots, kept, rfl⟩ := saveSnapshot_eq_ok.1 saved
  unfold Snapshots.save at kept
  split at kept
  case h_1 => cases kept
  case h_2 values captured =>
    obtain rfl := Except.ok.inj kept
    obtain ⟨sorted, admits⟩ := Snapshot.capture_admits valid.coherent.toWellFormed captured NameMap.sorted_empty
      (List.forall_mem_nil _)
    refine ⟨⟨valid.sensible, valid.members, ?_, valid.datasets⟩, valid.coherent, valid.sets_sorted,
      valid.snapshots_sorted.insert _ _, ?_, valid.datasets_sorted⟩
    · exact NameMap.forall_insert valid.snapshots ⟨rfl, admits⟩
    · exact NameMap.forall_insert valid.values_sorted sorted

theorem Valid.importDataset (valid : w.Valid) {d : Dataset} (rectangular : d.Rectangular)
    (imported : w.importDataset d = .ok changed) : changed.Valid := by
  obtain ⟨_, _, rfl⟩ := importDataset_eq_ok.1 imported
  refine ⟨⟨valid.sensible, valid.members, valid.snapshots, ?_⟩, valid.coherent, valid.sets_sorted,
    valid.snapshots_sorted, valid.values_sorted, valid.datasets_sorted.insert _ _⟩
  exact NameMap.forall_insert valid.datasets ⟨rfl, rectangular⟩

end Workspace

end DensityGraph
