import DensityGraph.Proofs.Workspace.Reachable

/-!
# What stays in a workspace

The operations that build a workspace only add to it.  What one of them brings in,
such as a set or a data set, stays while others follow.
-/

namespace DensityGraph.Workspace

open DensityGraph.Random (Stream)

variable {w before middle after changed : Workspace} {name : String} {members : List String}

/-- What has been added to a workspace stays there, and so do its settings.  A
snapshot may be replaced by one of the same name. -/
structure Retains (before after : Workspace) : Prop where
  reachable : before.Reachable → after.Reachable
  sampling : after.sampling = before.sampling
  storage : after.storage = before.storage
  sets : ∀ {name members}, before.sets.get? name = some members → after.sets.get? name = some members
  snapshots : ∀ {name}, before.snapshots.contains name = true → after.snapshots.contains name = true
  datasets : ∀ {name d}, before.datasets.get? name = some d → after.datasets.get? name = some d

theorem Retains.refl (w : Workspace) : w.Retains w :=
  ⟨id, rfl, rfl, id, id, id⟩

theorem Retains.trans (first : before.Retains middle) (second : middle.Retains after) : before.Retains after where
  reachable reachable := second.reachable (first.reachable reachable)
  sampling := second.sampling.trans first.sampling
  storage := second.storage.trans first.storage
  sets found := second.sets (first.sets found)
  snapshots found := second.snapshots (first.snapshots found)
  datasets found := second.datasets (first.datasets found)

theorem retains_changeTable {table : Table} (reachable : w.Reachable → Reachable { w with table }) :
    w.Retains { w with table } :=
  ⟨reachable, rfl, rfl, id, id, id⟩

theorem retains_declare {text : String} (declared : w.declare text = .ok (name, changed)) : w.Retains changed := by
  have reached : w.Reachable → changed.Reachable := fun reachable => reachable.declare declared
  obtain ⟨table, _, rfl⟩ := declare_eq_ok.1 declared
  exact retains_changeTable reached

theorem retains_setValue {value : Float} (set : w.setValue name value = .ok changed) : w.Retains changed := by
  have reached : w.Reachable → changed.Reachable := fun reachable => reachable.setValue set
  obtain ⟨table, _, rfl⟩ := setValue_eq_ok.1 set
  exact retains_changeTable reached

/-- The members of a set are kept in order, without the blanks around them. -/
theorem checkMembers_eq_trim {table : Table} {front kept : List String}
    (checked : checkMembers table front members = .ok kept) : kept = front ++ members.map Text.trim := by
  induction members generalizing front with
  | nil =>
      obtain rfl := Except.ok.inj checked
      rw [List.map_nil, List.append_nil]
  | cons first rest ih =>
      unfold checkMembers at checked
      dsimp only at checked
      split at checked
      case h_1 => cases checked
      case h_2 p found =>
        obtain ⟨_, checkedRest⟩ := guard_eq_ok.1 checked
        rw [ih checkedRest, List.append_assoc, List.singleton_append, List.map_cons]

theorem retains_defineSet (defined : w.defineSet name members = .ok changed) :
    w.Retains changed ∧ changed.sets.get? name = some (members.map Text.trim) := by
  have reached : w.Reachable → changed.Reachable := fun reachable => reachable.defineSet defined
  obtain ⟨_, new, kept, checked, rfl⟩ := defineSet_eq_ok.1 defined
  obtain rfl := checkMembers_eq_trim checked
  exact ⟨⟨reached, rfl, rfl, NameMap.get?_insert_of_new new, id, id⟩, NameMap.get?_insert_self⟩

theorem retains_saveSnapshot {parameters : List String} {now : Timestamp}
    (saved : w.saveSnapshot name parameters now = .ok changed) :
    w.Retains changed ∧ changed.snapshots.contains name = true := by
  have reached : w.Reachable → changed.Reachable := fun reachable => reachable.saveSnapshot saved
  obtain ⟨snapshots, kept, rfl⟩ := saveSnapshot_eq_ok.1 saved
  unfold Snapshots.save at kept
  split at kept
  case h_1 => cases kept
  case h_2 =>
    obtain rfl := Except.ok.inj kept
    exact ⟨⟨reached, rfl, rfl, id, NameMap.contains_insert, id⟩, NameMap.contains_insert_self⟩

theorem retains_importDataset {d : Dataset} {density : String} {observables : List String} {count : Nat}
    {stream rest : Stream} (made : w.generate density observables count stream = .ok (d, rest))
    (imported : w.importDataset (d.rename name) = .ok changed) :
    w.Retains changed ∧ changed.datasets.get? name = some (d.rename name) := by
  have reached : w.Reachable → changed.Reachable := fun reachable => reachable.importGenerated reachable made imported
  obtain ⟨_, new, rfl⟩ := importDataset_eq_ok.1 imported
  exact ⟨⟨reached, rfl, rfl, id, id, NameMap.get?_insert_of_new new⟩, NameMap.get?_insert_self⟩

/-- The steps of a loop that adds to a workspace keep what there is, and what each
of them brings in is there at the end. -/
theorem retains_foldlM {α : Type} {step : Workspace → α → Except ModelError Workspace} (holds : α → Workspace → Prop)
    (stays : ∀ {a before after}, before.Retains after → holds a before → holds a after)
    (each : ∀ {a before after}, step before a = .ok after → before.Retains after ∧ holds a after)
    {list : List α} (folded : list.foldlM step w = .ok after) : w.Retains after ∧ ∀ a ∈ list, holds a after :=
  foldlM_brings Retains holds Retains.refl Retains.trans stays each folded

end DensityGraph.Workspace
