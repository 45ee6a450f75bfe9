import DensityGraph.Proofs.Workspace.Loaded
import DensityGraph.Proofs.Workspace.Step

/-!
# Names and members that only building checks

Sets and data sets are defined under valid names, and the members of a set are
different.  Reading a workspace checks neither: it takes every set of declared
parameters and every rectangular data set under whatever name it stands.  So a
workspace has only those improper sets and data sets that it has been read with.
-/

namespace DensityGraph.Workspace

variable {w earlier changed : Workspace} {limits : Limits}

/-- Sets and data sets are proper, or stood there earlier. -/
structure ProperSince (earlier w : Workspace) : Prop where
  sets : ∀ entry ∈ w.sets.entries, entry ∈ earlier.sets.entries ∨ ProperSet entry
  datasets : ∀ entry ∈ w.datasets.entries, entry ∈ earlier.datasets.entries ∨ isValidName entry.1 = true

theorem ProperSince.refl (w : Workspace) : ProperSince w w :=
  ⟨fun _ => .inl, fun _ => .inl⟩

theorem ProperSince.edited (proper : ProperSince earlier w) (edited : Edited limits w changed) :
    ProperSince earlier changed := by
  constructor
  case sets =>
    rcases edited.sets with same | ⟨name, members, properSet, inserted⟩
    · rw [same]
      exact proper.sets
    · rw [inserted]
      exact NameMap.forall_insert proper.sets (.inr properSet)
  case datasets =>
    rcases edited.datasets with same | ⟨d, named, inserted⟩
    · rw [same]
      exact proper.datasets
    · rw [inserted]
      exact NameMap.forall_insert proper.datasets (.inr named)

theorem properSince_of_steps (reachable : earlier.Reachable)
    (steps : Relation.ReflTransGen (Step limits) earlier w) : ProperSince earlier w := by
  induction steps with
  | refl => exact .refl earlier
  | tail before step ih => exact ih.edited (step.edited (reachable_of_steps reachable before).valid)

/-- The workspace with another set. -/
def putSet (w : Workspace) (name : String) (members : List String) : Workspace :=
  { w with sets := w.sets.insert name members }

/-- The workspace with another data set, under the name of the data set. -/
def putDataset (w : Workspace) (d : Dataset) : Workspace :=
  { w with datasets := w.datasets.insert d.name d }

theorem Valid.putSet (valid : w.Valid) {name : String} {members : List String}
    (declared : ∀ member ∈ members, w.table.HasParameter member) : (w.putSet name members).Valid :=
  ⟨⟨valid.sensible, NameMap.forall_insert valid.members declared, valid.snapshots, valid.datasets⟩, valid.coherent,
    valid.sets_sorted.insert _ _, valid.snapshots_sorted, valid.values_sorted, valid.datasets_sorted⟩

theorem Valid.putDataset (valid : w.Valid) {d : Dataset} (rectangular : d.Rectangular) : (w.putDataset d).Valid :=
  ⟨⟨valid.sensible, valid.members, valid.snapshots, NameMap.forall_insert valid.datasets ⟨rfl, rectangular⟩⟩,
    valid.coherent, valid.sets_sorted, valid.snapshots_sorted, valid.values_sorted, valid.datasets_sorted.insert _ _⟩

/-- The members of all sets are declared parameters.  What has been built since any
earlier moment is proper, but whatever stands in a text is read: a set of declared
parameters, repeated or not, and a rectangular data set, each under any name. -/
theorem Reachable.proper_since (reachable : w.Reachable) :
    (∀ entry ∈ w.sets.entries, ∀ member ∈ entry.2, w.table.HasParameter member) ∧
      (∀ earlier : Workspace, earlier.Reachable → Relation.ReflTransGen (Step .none) earlier w →
        (∀ entry ∈ w.sets.entries, entry ∈ earlier.sets.entries ∨ isValidName entry.1 = true ∧ entry.2.Nodup) ∧
          ∀ entry ∈ w.datasets.entries, entry ∈ earlier.datasets.entries ∨ isValidName entry.1 = true) ∧
      (∀ name members, (∀ member ∈ members, w.table.HasParameter member) → (w.putSet name members).Readable →
        Workspace.ofText (w.putSet name members).toText = .ok (w.putSet name members).withStandard) ∧
      ∀ d : Dataset, d.Rectangular → (w.putDataset d).Readable →
        Workspace.ofText (w.putDataset d).toText = .ok (w.putDataset d).withStandard := by
  have valid := reachable.valid
  refine ⟨valid.members, fun earlier before steps => ?_, fun name members declared readable => ?_,
    fun d rectangular readable => ?_⟩
  · have proper := properSince_of_steps before steps
    exact ⟨proper.sets, proper.datasets⟩
  · exact (valid.putSet declared).ofText_toText readable
  · exact (valid.putDataset rectangular).ofText_toText readable

/-- A parameter with a set of its own. -/
def oneParameter : Except ModelError Workspace := do
  let (_, w) ← (new "w" ⟨0, 0, 0⟩).declare "x[0,1]"
  w.defineSet "s" ["x"]

theorem steps_oneParameter (built : oneParameter = .ok w) :
    Relation.ReflTransGen (Step .none) (new "w" ⟨0, 0, 0⟩) w := by
  simp only [oneParameter, bind_eq_ok] at built
  obtain ⟨_, declared, defined⟩ := built
  exact .tail (.single (.declare declared)) (.defineSet defined)

theorem rectangular_withoutColumns (name : String) : Dataset.Rectangular ⟨name, [], []⟩ :=
  ⟨List.nodup_nil, List.forall_mem_nil _, List.forall_mem_nil _⟩

/-- What is built is proper; a set that lists its parameter twice and a data set, both
under names that are not valid, are read. -/
theorem proper_since_oneParameter : ∃ w : Workspace, oneParameter = .ok w ∧ w.Reachable ∧ w.sets.names = ["s"] ∧
    (∀ entry ∈ w.sets.entries, entry ∈ (new "w" ⟨0, 0, 0⟩).sets.entries ∨ isValidName entry.1 = true ∧ entry.2.Nodup) ∧
    Workspace.ofText (w.putSet "s t" ["x", "x"]).toText = .ok (w.putSet "s t" ["x", "x"]).withStandard ∧
    Workspace.ofText (w.putDataset ⟨"d e", [], []⟩).toText = .ok (w.putDataset ⟨"d e", [], []⟩).withStandard := by
  have evaluated : oneParameter.toOption.any (fun w => decide (w.sets.names = ["s"]) &&
      (w.table.parameter "x").toBool && decide (w.putSet "s t" ["x", "x"]).Readable &&
      decide (w.putDataset ⟨"d e", [], []⟩).Readable) = true := by
    decide +kernel
  cases built : oneParameter with
  | error e => simp [built, Except.toOption] at evaluated
  | ok w =>
      simp only [built, Except.toOption, Option.any_some, Bool.and_eq_true, decide_eq_true_eq] at evaluated
      obtain ⟨⟨⟨names, found⟩, readable⟩, readableToo⟩ := evaluated
      have steps := steps_oneParameter built
      have reachable := reachable_of_steps (.new _ _) steps
      have parameter : w.table.HasParameter "x" := Table.hasParameter_iff.2 (exists_ok_of_toBool found)
      obtain ⟨_, since, sets, datasets⟩ := Reachable.proper_since reachable
      exact ⟨w, rfl, reachable, names, (since _ (.new _ _) steps).1, sets _ _ (by simpa using parameter) readable,
        datasets _ (rectangular_withoutColumns _) readableToo⟩

/-- A workspace is read with a set that lists its parameter twice and with a data set,
both under names that are not valid. -/
theorem not_proper_of_read : ∃ w : Workspace, w.Reachable ∧
    (∃ entry ∈ w.sets.entries, isValidName entry.1 = false ∧ ¬ entry.2.Nodup) ∧
    ∃ entry ∈ w.datasets.entries, isValidName entry.1 = false := by
  have evaluated : oneParameter.toOption.any (fun w =>
      let improper := (w.putSet "s t" ["x", "x"]).putDataset ⟨"d e", [], []⟩
      (w.table.parameter "x").toBool && decide improper.Readable &&
        decide (∃ entry ∈ improper.sets.entries, isValidName entry.1 = false ∧ ¬ entry.2.Nodup) &&
        decide (∃ entry ∈ improper.datasets.entries, isValidName entry.1 = false)) = true := by
    decide +kernel
  cases built : oneParameter with
  | error e => simp [built, Except.toOption] at evaluated
  | ok w =>
      simp only [built, Except.toOption, Option.any_some, Bool.and_eq_true, decide_eq_true_eq] at evaluated
      obtain ⟨⟨⟨found, readable⟩, improperSet⟩, improperDataset⟩ := evaluated
      have valid := (reachable_of_steps (.new _ _) (steps_oneParameter built)).valid
      have parameter : w.table.HasParameter "x" := Table.hasParameter_iff.2 (exists_ok_of_toBool found)
      have validSet : (w.putSet "s t" ["x", "x"]).Valid := valid.putSet (by simpa using parameter)
      have validAll := validSet.putDataset (rectangular_withoutColumns "d e")
      exact ⟨_, .ofText (validAll.ofText_toText readable), improperSet, improperDataset⟩

end DensityGraph.Workspace
