import DensityGraph.Job
import DensityGraph.Proofs.Declaration.Form
import DensityGraph.Proofs.Workspace.Reachable

/-!
# Errors about settings

The settings of drawing and of storage and the numbers of observations are checked
wherever they are used.  No other part of an operation on a workspace fails for them,
so that with settings that have been checked before nothing does.
-/

namespace DensityGraph

open DensityGraph.Random (Stream)
open DensityGraph.Sampling (Stop checkRequest generate)

/-- Neither the settings nor a number of observations are at fault. -/
def ModelError.sparesSettings : ModelError → Bool
  | config _ | invalidSampleCount _ => false
  | duplicateName _ | unknownReference .. | cycle _ | formula _ | declaration _ | composition _ | sampling _
  | unknownSnapshot _ | outOfBounds .. | invalidRange .. | readOnly _ | file .. | corrupt _ => true

def Sampling.Stop.sparesSettings : Stop → Bool
  | .error e => e.sparesSettings
  | .exhausted | .rangeOverflow => true

/-- An operation that does not fail for settings or for a number of observations. -/
abbrev Spares {α : Type} (result : Except ModelError α) : Prop := FailsWith ModelError.sparesSettings result

/-- Such an operation that may also stop without an error. -/
abbrev SparesToo {α : Type} (result : Except Stop α) : Prop := FailsWith Stop.sparesSettings result

theorem ModelError.sparesSettings_of_isAboutModel {e : ModelError} (aboutModel : e.isAboutModel = true) :
    e.sparesSettings = true := by
  cases e <;> first | rfl | cases aboutModel

theorem Quiet.spares {α : Type} {result : Except ModelError α} (quiet : Quiet result) : Spares result :=
  quiet.mono fun _ => ModelError.sparesSettings_of_isAboutModel

theorem Sampling.Stop.sparesSettings_iff {stop : Stop} : stop.sparesSettings = true ↔
    (∀ fault, stop ≠ .error (.config fault)) ∧ ∀ count, stop ≠ .error (.invalidSampleCount count) := by
  constructor
  · intro spares
    constructor
    · rintro fault rfl
      cases spares
    · rintro count rfl
      cases spares
  · rintro ⟨noConfig, noCount⟩
    cases stop with
    | exhausted | rangeOverflow => rfl
    | error e =>
        cases e with
        | config fault => exact absurd rfl (noConfig fault)
        | invalidSampleCount count => exact absurd rfl (noCount count)
        | _ => rfl

theorem Sampling.Stop.sparesSettings_of_expected {stop : Stop} (expected : stop.Expected) :
    stop.sparesSettings = true := by
  cases stop with
  | exhausted | rangeOverflow => rfl
  | error e =>
      obtain ⟨_, _, _, rfl⟩ | ⟨_, _, _, _, _, _, _, rfl⟩ | (⟨_, _, rfl⟩ | ⟨_, rfl⟩) | ⟨_, rfl⟩ := expected <;> rfl

namespace Table

variable {table : Table} {name : String} {names : List String}

theorem spares_declare {text : String} : Spares (table.declare text) := by
  intro e failed
  obtain aboutModel | ⟨_, _, rfl⟩ := declare_eq_error failed
  · exact e.sparesSettings_of_isAboutModel aboutModel
  · rfl

theorem quiet_setValue {value : Float} : Quiet (table.setValue name value) := by
  refine quiet_parameter.bind fun p => FailsWith.bind ?_ fun changed => .ok _
  unfold Parameter.setValue
  split
  · exact .ite (.ok _) (.error rfl)
  · exact .error rfl

theorem quiet_capture {values : NameMap Float} : Quiet (Snapshot.capture table values names) := by
  induction names generalizing values with
  | nil => exact .ok values
  | cons first rest ih =>
      unfold Snapshot.capture
      split
      case h_1 failed => exact quiet_parameter.passed failed
      case h_2 p found =>
        split
        · exact .error rfl
        · exact ih

end Table

namespace Sampling

variable {table : Table} {density : String} {generated seen observables : List String} {count : Nat} {config : Config}

theorem spares_checkObservables : Spares (checkObservables density generated seen observables) := by
  induction observables generalizing seen with
  | nil => exact .ok ()
  | cons first rest ih =>
      unfold checkObservables
      exact .ite (.error rfl) (.ite (.error rfl) ih)

/-- A request is refused for its settings or its count only if they are wrong. -/
theorem spares_checkRequest (positive : count ≠ 0) (configured : config.check = .ok ()) :
    Spares (checkRequest table density observables count config) := by
  unfold checkRequest
  rw [if_neg positive, configured]
  apply FailsWith.guard rfl
  exact Table.quiet_generatedVariables.spares.bind fun generated => spares_checkObservables

theorem spares_generate (coherent : table.Coherent) (positive : count ≠ 0) (configured : config.check = .ok ())
    {stream : Stream} : SparesToo (generate table density observables count config stream) := by
  intro stop stopped
  cases checked : checkRequest table density observables count config with
  | error e =>
      rw [generate_of_refused checked] at stopped
      obtain rfl := Except.error.inj stopped
      exact spares_checkRequest positive configured e checked
  | ok =>
      have settles : Settles (generate table density observables count config stream) fun result =>
          result.1.columns = observables ∧ result.1.Rectangular := settles_generate coherent checked
      rw [stopped] at settles
      exact Stop.sparesSettings_of_expected settles

end Sampling

namespace Workspace

variable {w : Workspace} {name : String} {members : List String}

theorem spares_declare {text : String} : Spares (w.declare text) :=
  Table.spares_declare.bind fun _ => .ok _

theorem quiet_checkMembers {table : Table} {before : List String} : Quiet (checkMembers table before members) := by
  induction members generalizing before with
  | nil => exact .ok before
  | cons first rest ih =>
      unfold checkMembers
      dsimp only
      split
      case h_1 failed => exact Table.quiet_parameter.passed failed
      case h_2 p found => exact .ite (.error rfl) ih

theorem spares_defineSet : Spares (w.defineSet name members) := by
  unfold defineSet
  apply FailsWith.guard rfl
  apply FailsWith.guard rfl
  exact quiet_checkMembers.spares.bind fun _ => .ok _

theorem spares_setValue {value : Float} : Spares (w.setValue name value) :=
  Table.quiet_setValue.spares.bind fun _ => .ok _

theorem spares_saveSnapshot {parameters : List String} {now : Timestamp} :
    Spares (w.saveSnapshot name parameters now) := by
  refine FailsWith.bind ?_ fun _ => .ok _
  unfold Snapshots.save
  split
  case h_1 failed => exact Table.quiet_capture.spares.passed failed
  case h_2 => exact .ok _

theorem spares_importDataset {d : Dataset} : Spares (w.importDataset d) := by
  unfold importDataset
  apply FailsWith.guard rfl
  exact FailsWith.guard rfl (.ok _)

theorem spares_set : Spares (w.set name) := by
  unfold Workspace.set
  split
  · exact .ok _
  · exact .error rfl

/-- A save is refused for its settings only if they are wrong. -/
theorem sparesSettings_of_save {attempt : Storage.Attempt} {directory after : Directory} {path : String}
    {e : ModelError} (configured : w.storage.check = .ok ())
    (failed : w.save attempt directory path = (.error e, after)) : e.sparesSettings = true := by
  have spares : Spares (Storage.frameFor w.storage path w.toJson) := by
    unfold Storage.frameFor
    rw [configured]
    have encodes : Spares (Artifact.encode w.toJson) := .ite (.error rfl) (.ok _)
    refine encodes.bind fun frame => ?_
    apply FailsWith.guard rfl
    exact .ok frame
  unfold Workspace.save Storage.save at failed
  split at failed
  case h_1 unframed =>
    obtain rfl := Except.error.inj (Prod.mk.inj failed).1
    exact spares _ unframed
  case h_2 =>
    split at failed
    case h_1 =>
      obtain rfl := Except.error.inj (Prod.mk.inj failed).1
      rfl
    case h_2 => cases (Prod.mk.inj failed).1

end Workspace

end DensityGraph
