import DensityGraph.Proofs.Snapshot.Captured
import DensityGraph.Proofs.Workspace.Damaged
import DensityGraph.Proofs.Workspace.Stored
import Mathlib.Logic.Relation

/-!
# What one operation does

An operation that succeeds changes one part of a workspace at most, and only in the
ways that are written down here.  Writing a workspace and reading it again counts as
one, reading another workspace does not: what is true of every workspace that is
built from a given one follows from what a single operation does.
-/

namespace DensityGraph

open DensityGraph.Random (Stream)

/-- One change of a table.  The ranges that may be set are those of some names. -/
inductive Table.Edit (ranges : String → Prop) : Table → Table → Prop where
  | unchanged {table : Table} : Table.Edit ranges table table
  | declare {table changed : Table} {text name : String} (done : table.declare text = .ok (name, changed)) :
      Table.Edit ranges table changed
  | density {table changed : Table} {d : Density} (done : table.declareDensity d = .ok changed) :
      Table.Edit ranges table changed
  | setValue {table changed : Table} {name : String} {value : Float} (done : table.setValue name value = .ok changed) :
      Table.Edit ranges table changed
  | setRange {table changed : Table} {name : String} {lower upper : Float} (allowed : ranges name)
      (done : table.setRange name lower upper = .ok changed) : Table.Edit ranges table changed
  | restore {table : Table} (snapshots : Snapshots) (name : String) :
      Table.Edit ranges table (snapshots.restore table name).2

theorem Table.Edit.extends_changed {ranges : String → Prop} {table changed : Table}
    (edit : Table.Edit ranges table changed) (wellFormed : table.WellFormed) : table.Extends changed := by
  cases edit with
  | unchanged => exact .refl _
  | declare done => exact (grows_of_declare done).extends_changed
  | density done => exact extends_declareDensity done
  | setValue done => exact (wellFormed.setValue done).extends_changed
  | setRange _ done => exact (wellFormed.setRange done).extends_changed
  | restore snapshots name => exact (Snapshots.adjusted_restore wellFormed snapshots name).extends_changed

namespace Workspace

/-- What some steps are bound to: the names under which they may save a snapshot, and
those whose ranges they may set. -/
structure Limits where
  saves : String → Prop
  ranges : String → Prop

namespace Limits

def none : Limits := ⟨fun _ => True, fun _ => True⟩

/-- No snapshot is saved under a name. -/
def keeping (name : String) : Limits := ⟨fun other => other ≠ name, fun _ => True⟩

/-- Only some ranges are set. -/
def ranging (ranges : String → Prop) : Limits := ⟨fun _ => True, ranges⟩

end Limits

variable {w changed : Workspace} {limits : Limits} {name : String}

/-- One operation that succeeds, within limits.  An operation that fails leaves a
workspace as it is.  A workspace that is written and read again comes from its text,
or from a path that still leads to what a save has written, where numbers and moments
are assumed to be read back. -/
inductive Step (limits : Limits) : Workspace → Workspace → Prop where
  | withConfig {w changed : Workspace} {sampling : Sampling.Config} {storage : StorageConfig}
      (done : w.withConfig sampling storage = .ok changed) : Step limits w changed
  | declare {w changed : Workspace} {text name : String} (done : w.declare text = .ok (name, changed)) :
      Step limits w changed
  | compose {w changed : Workspace} {owner conditional shared marginal name : String}
      (done : w.compose owner conditional shared marginal = .ok (name, changed)) : Step limits w changed
  | defineSet {w changed : Workspace} {name : String} {members : List String}
      (done : w.defineSet name members = .ok changed) : Step limits w changed
  | setValue {w changed : Workspace} {name : String} {value : Float} (done : w.setValue name value = .ok changed) :
      Step limits w changed
  | setRange {w changed : Workspace} {name : String} {lower upper : Float} (allowed : limits.ranges name)
      (done : w.setRange name lower upper = .ok changed) : Step limits w changed
  | saveSnapshot {w changed : Workspace} {name : String} {parameters : List String} {now : Timestamp}
      (allowed : limits.saves name) (done : w.saveSnapshot name parameters now = .ok changed) : Step limits w changed
  | restoreSnapshot {w changed : Workspace} {name : String} (done : w.restoreSnapshot name = .ok changed) :
      Step limits w changed
  | importRows {w changed : Workspace} {name other : String} {columns : List String} {rows : List (List Float)}
      {d : Dataset} (made : Dataset.ofRows name columns rows = .ok d)
      (done : w.importDataset (d.rename other) = .ok changed) : Step limits w changed
  | importGenerated {w source changed : Workspace} {density other : String} {observables : List String}
      {count : Nat} {stream rest : Stream} {d : Dataset} (origin : Reachable source)
      (made : source.generate density observables count stream = .ok (d, rest))
      (done : w.importDataset (d.rename other) = .ok changed) : Step limits w changed
  | reread {w changed : Workspace} (readable : w.Readable) (read : ofText w.toText = .ok changed) :
      Step limits w changed
  | reload {w changed : Workspace} {attempt : Storage.Attempt} {directory after current : Directory} {path : String}
      {size : Nat} (readable : w.Readable) (saved : w.save attempt directory path = (.ok size, after))
      (stays : Storage.contents current path = Storage.contents after path)
      (read : load current path = .ok changed) : Step limits w changed

theorem Step.reachable (step : Step limits w changed) (before : w.Reachable) : changed.Reachable := by
  cases step with
  | withConfig done => exact before.withConfig done
  | declare done => exact before.declare done
  | compose done => exact before.compose done
  | defineSet done => exact before.defineSet done
  | setValue done => exact before.setValue done
  | setRange _ done => exact before.setRange done
  | saveSnapshot _ done => exact before.saveSnapshot done
  | restoreSnapshot done => exact before.restoreSnapshot done
  | importRows made done => exact before.importRows made done
  | importGenerated origin made done => exact before.importGenerated origin made done
  | reread _ read => exact .ofText read
  | reload _ _ _ read => exact .load read

theorem reachable_of_steps (before : w.Reachable) (steps : Relation.ReflTransGen (Step limits) w changed) :
    changed.Reachable := by
  induction steps with
  | refl => exact before
  | tail _ step ih => exact step.reachable ih

/-- Members of a set that is defined are different. -/
theorem nodup_of_checkMembers {table : Table} {before members kept : List String}
    (checked : checkMembers table before members = .ok kept) (distinct : before.Nodup) : kept.Nodup := by
  induction members generalizing before with
  | nil =>
      obtain rfl := Except.ok.inj checked
      exact distinct
  | cons first rest ih =>
      unfold checkMembers at checked
      dsimp only at checked
      split at checked
      case h_1 => cases checked
      case h_2 p found =>
        obtain ⟨new, checkedRest⟩ := guard_eq_ok.1 checked
        apply ih checkedRest
        rw [List.nodup_append]
        refine ⟨distinct, List.nodup_singleton _, ?_⟩
        rintro member inside _ single rfl
        rw [List.mem_singleton.mp single] at inside
        exact new (List.contains_iff_mem.mpr inside)

/-- A set stands under a valid name and its members are different. -/
def ProperSet (entry : String × List String) : Prop := isValidName entry.1 = true ∧ entry.2.Nodup

/-- What one operation does to the parts of a workspace. -/
structure Edited (limits : Limits) (w changed : Workspace) : Prop where
  table : Table.Edit limits.ranges w.table changed.table
  sets : changed.sets = w.sets ∨
    ∃ name members, ProperSet (name, members) ∧ changed.sets = w.sets.insert name members
  snapshots : changed.snapshots = w.snapshots ∨
    ∃ name snapshot, limits.saves name ∧ changed.snapshots = w.snapshots.insert name snapshot
  datasets : changed.datasets = w.datasets ∨
    ∃ d, isValidName d.name = true ∧ changed.datasets = w.datasets.insert d.name d

theorem edited_changeTable {table : Table} (edit : Table.Edit limits.ranges w.table table) :
    Edited limits w { w with table } :=
  ⟨edit, .inl rfl, .inl rfl, .inl rfl⟩

theorem edited_importDataset {d : Dataset} (imported : w.importDataset d = .ok changed) :
    Edited limits w changed := by
  obtain ⟨valid, _, rfl⟩ := importDataset_eq_ok.1 imported
  exact ⟨.unchanged, .inl rfl, .inl rfl, .inr ⟨d, valid, rfl⟩⟩

/-- Settings are not among the parts. -/
theorem edited_withStandard : Edited limits w w.withStandard :=
  ⟨.unchanged, .inl rfl, .inl rfl, .inl rfl⟩

theorem Step.edited (valid : w.Valid) (step : Step limits w changed) : Edited limits w changed := by
  cases step with
  | withConfig done =>
      obtain ⟨_, _, rfl⟩ := withConfig_eq_ok.1 done
      exact ⟨.unchanged, .inl rfl, .inl rfl, .inl rfl⟩
  | declare done =>
      obtain ⟨table, declared, rfl⟩ := declare_eq_ok.1 done
      exact edited_changeTable (.declare declared)
  | compose done =>
      obtain ⟨_, _, _, table, declared, _, rfl⟩ := compose_eq_ok.1 done
      exact edited_changeTable (.density declared)
  | defineSet done =>
      obtain ⟨named, _, kept, checked, rfl⟩ := defineSet_eq_ok.1 done
      have proper : ProperSet (_, kept) := ⟨named, nodup_of_checkMembers checked List.nodup_nil⟩
      exact ⟨.unchanged, .inr ⟨_, kept, proper, rfl⟩, .inl rfl, .inl rfl⟩
  | setValue done =>
      obtain ⟨table, set, rfl⟩ := setValue_eq_ok.1 done
      exact edited_changeTable (.setValue set)
  | setRange allowed done =>
      obtain ⟨table, set, rfl⟩ := setRange_eq_ok.1 done
      exact edited_changeTable (.setRange allowed set)
  | saveSnapshot allowed done =>
      obtain ⟨snapshots, saved, rfl⟩ := saveSnapshot_eq_ok.1 done
      obtain ⟨snapshot, rfl, _⟩ := Snapshots.exists_of_save valid.coherent.toWellFormed saved
      exact ⟨.unchanged, .inl rfl, .inr ⟨_, snapshot, allowed, rfl⟩, .inl rfl⟩
  | @restoreSnapshot _ name done =>
      obtain ⟨table, restored, rfl⟩ := restoreSnapshot_eq_ok.1 done
      obtain rfl : (w.snapshots.restore w.table name).2 = table := congrArg Prod.snd restored
      exact edited_changeTable (.restore w.snapshots name)
  | importRows _ done => exact edited_importDataset done
  | importGenerated _ _ done => exact edited_importDataset done
  | reread readable read =>
      obtain rfl := Except.ok.inj ((valid.ofText_toText readable).symm.trans read)
      exact edited_withStandard
  | reload readable saved stays read =>
      obtain ⟨fits, contents⟩ := Storage.contents_of_save saved
      have loads := valid.load_of_contents readable fits (stays.trans contents)
      obtain rfl := Except.ok.inj (loads.symm.trans read)
      exact edited_withStandard

end Workspace

end DensityGraph
