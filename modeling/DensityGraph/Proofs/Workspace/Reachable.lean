import DensityGraph.Proofs.Document.Workspace
import DensityGraph.Proofs.Sampling.Generate
import DensityGraph.Workspace.Storage

/-!
# Reachable workspaces

Workspaces that come from empty ones by the operations that build them, and from
stored ones by reading them.  All of them are valid.
-/

namespace DensityGraph.Workspace

open DensityGraph.Random (Stream)

/-- Built by operations that succeed, or read from a text or a file.  An
imported data set is made of rows or drawn from a reachable workspace, under any
name. -/
inductive Reachable : Workspace → Prop where
  | new (name : String) (now : Timestamp) : Reachable (new name now)
  | withConfig {w changed : Workspace} {sampling : Sampling.Config} {storage : StorageConfig}
      (before : Reachable w) (done : w.withConfig sampling storage = .ok changed) : Reachable changed
  | declare {w changed : Workspace} {text name : String} (before : Reachable w)
      (done : w.declare text = .ok (name, changed)) : Reachable changed
  | compose {w changed : Workspace} {owner conditional shared marginal name : String} (before : Reachable w)
      (done : w.compose owner conditional shared marginal = .ok (name, changed)) : Reachable changed
  | defineSet {w changed : Workspace} {name : String} {members : List String} (before : Reachable w)
      (done : w.defineSet name members = .ok changed) : Reachable changed
  | setValue {w changed : Workspace} {name : String} {value : Float} (before : Reachable w)
      (done : w.setValue name value = .ok changed) : Reachable changed
  | setRange {w changed : Workspace} {name : String} {lower upper : Float} (before : Reachable w)
      (done : w.setRange name lower upper = .ok changed) : Reachable changed
  | saveSnapshot {w changed : Workspace} {name : String} {parameters : List String} {now : Timestamp}
      (before : Reachable w) (done : w.saveSnapshot name parameters now = .ok changed) : Reachable changed
  | restoreSnapshot {w changed : Workspace} {name : String} (before : Reachable w)
      (done : w.restoreSnapshot name = .ok changed) : Reachable changed
  | importRows {w changed : Workspace} {name other : String} {columns : List String} {rows : List (List Float)}
      {d : Dataset} (before : Reachable w) (made : Dataset.ofRows name columns rows = .ok d)
      (done : w.importDataset (d.rename other) = .ok changed) : Reachable changed
  | importGenerated {w source changed : Workspace} {density other : String} {observables : List String}
      {count : Nat} {stream rest : Stream} {d : Dataset} (before : Reachable w) (origin : Reachable source)
      (made : source.generate density observables count stream = .ok (d, rest))
      (done : w.importDataset (d.rename other) = .ok changed) : Reachable changed
  | ofText {w : Workspace} {text : String} (read : ofText text = .ok w) : Reachable w
  | load {w : Workspace} {directory : Directory} {path : String} (read : load directory path = .ok w) :
      Reachable w

variable {w : Workspace}

/-- A workspace that is read from a file is that of a value, and has been checked. -/
theorem exists_value_of_load {directory : Directory} {path : String} (read : load directory path = .ok w) :
    ∃ value, ofJson value = .ok w ∧ w.check = .ok () := by
  simp only [Workspace.load, ofArtifact, Storage.valueOf, bind_eq_ok, mapError_eq_ok, exists_unit, throw_bind,
    guard_eq_ok, pure_eq_ok] at read
  obtain ⟨_, _, found, ⟨_, _, ⟨value, rest⟩, decoded, _, rfl⟩, checked, rfl⟩ := read
  obtain ⟨_, valueDecoded⟩ := Artifact.exists_value_of_decode decoded
  exact ⟨_, valueDecoded, checked⟩

theorem valid_of_load {directory : Directory} {path : String} (read : load directory path = .ok w) : w.Valid := by
  obtain ⟨_, decoded, checked⟩ := exists_value_of_load read
  exact valid_of_ofJson decoded checked

/-- Every reachable workspace is valid. -/
theorem Reachable.valid (reachable : w.Reachable) : w.Valid := by
  induction reachable with
  | new name now => exact valid_new name now
  | withConfig _ done ih => exact ih.withConfig done
  | declare _ done ih => exact ih.declare done
  | compose _ done ih => exact ih.compose done
  | defineSet _ done ih => exact ih.defineSet done
  | setValue _ done ih => exact ih.setValue done
  | setRange _ done ih => exact ih.setRange done
  | saveSnapshot _ done ih => exact ih.saveSnapshot done
  | restoreSnapshot _ done ih => exact ih.restoreSnapshot done
  | importRows _ made done ih => exact ih.importDataset ((Dataset.rectangular_of_ofRows made).rename _) done
  | importGenerated _ _ made done ih source =>
      have rectangular := Sampling.rectangular_of_generate source.coherent made
      exact ih.importDataset (rectangular.rename _) done
  | ofText read => exact valid_of_ofText read
  | load read => exact valid_of_load read

/-- A declaration that succeeds leads to a reachable workspace, of which holds what
the evaluation of the declaration shows. -/
theorem Reachable.exists_declare (reachable : w.Reachable) (text : String) {test : Workspace → Bool}
    (accepted : (w.declare text).toOption.any (fun result => test result.2) = true) :
    ∃ changed : Workspace, changed.Reachable ∧ test changed = true := by
  cases declared : w.declare text with
  | error e => simp [declared, Except.toOption] at accepted
  | ok result =>
      rw [declared] at accepted
      exact ⟨result.2, .declare reachable declared, by simpa [Except.toOption] using accepted⟩

end DensityGraph.Workspace
