import DensityGraph.Proofs.Document.Restored
import DensityGraph.Proofs.Storage.Limit
import DensityGraph.Proofs.Workspace.Reachable

/-!
# Workspaces that are stored and read back

Whatever has been done to a reachable workspace, its text and its file are read
as the same workspace.  Only the settings are not stored.
-/

namespace DensityGraph

namespace Storage

variable {α : Type} {decoder : Json.Decoder α} {a : α} {config : StorageConfig} {attempt : Attempt}
  {directory after : Directory} {path : String} {value : Json}

/-- A value that is not too long is saved if its file can be replaced. -/
theorem save_eq_ok (configured : config.check = .ok ())
    (fits : (Artifact.payload value).length ≤ config.maxSize)
    (replaced : replace attempt directory path config.syncOnWrite (Artifact.frame (Artifact.payload value)) =
      (.ok (), after)) :
    save attempt config directory path value =
      (.ok (Artifact.header.length + (Artifact.frame (Artifact.payload value)).length), after) := by
  have limited := maxSize_le configured
  have framed : frameFor config path value = .ok (Artifact.frame (Artifact.payload value)) := by
    rw [frameFor_eq configured, if_neg (by omega), if_neg (by omega)]
  simp only [save, framed, replaced]

/-- The artifact of a value holds the value. -/
theorem valueOf_frame (readable : value.sound Json.Number.readsBack = true)
    (fits : (Artifact.payload value).length ≤ Artifact.maxPayload) (decoded : decoder value = .ok a) :
    valueOf decoder path (Artifact.header ++ Artifact.frame (Artifact.payload value)) = .ok a := by
  have whole := Artifact.decode_frame [] readable fits decoded
  rw [List.append_nil] at whole
  simp only [valueOf, Artifact.readHeader_append, whole, Except.mapError, ok_bind]
  rfl

end Storage

namespace Workspace

variable {w : Workspace}

theorem Valid.check_withStandard (valid : w.Valid) : w.withStandard.check = .ok () :=
  check_eq_ok.2 ⟨valid.sensible, valid.members, valid.snapshots, valid.datasets⟩

theorem Valid.ofText_toText (valid : w.Valid) (readable : w.Readable) : ofText w.toText = .ok w.withStandard := by
  have read := Json.read_pretty (valid.readsBack readable)
  have decoded : (Json.read w.toText.toList).decode ofJson = .ok w.withStandard := by
    rw [toText, read]
    exact Json.Document.decode_eq_ok.2 ⟨valid.ofJson_toJson readable, rfl⟩
  simp only [ofText, decoded, Except.mapError, ok_bind, valid.check_withStandard]
  rfl

/-- A path that leads to the artifact of a valid workspace is loaded as the workspace. -/
theorem Valid.load_of_contents (valid : w.Valid) (readable : w.Readable) {directory : Directory} {path : String}
    (fits : (Artifact.payload w.toJson).length ≤ Artifact.maxPayload)
    (contents : Storage.contents directory path =
      .ok (Artifact.header ++ Artifact.frame (Artifact.payload w.toJson))) :
    load directory path = .ok w.withStandard := by
  have held : Storage.valueOf ofJson path (Artifact.header ++ Artifact.frame (Artifact.payload w.toJson)) =
      .ok w.withStandard := Storage.valueOf_frame (valid.readsBack readable) fits (valid.ofJson_toJson readable)
  simp only [load, contents, ofArtifact, held, ok_bind, valid.check_withStandard]
  rfl

theorem Valid.load_of_replace (valid : w.Valid) (readable : w.Readable) {attempt : Storage.Attempt}
    {directory after : Directory} {path : String} {sync : Bool}
    (fits : (Artifact.payload w.toJson).length ≤ Artifact.maxPayload)
    (replaced : Storage.replace attempt directory path sync (Artifact.frame (Artifact.payload w.toJson)) =
      (.ok (), after)) : load after path = .ok w.withStandard :=
  valid.load_of_contents readable fits (Storage.contents_of_replace replaced)

theorem storage_of_ofJson {value : Json} (read : ofJson value = .ok w) : w.storage = StorageConfig.standard := by
  simp only [ofJson, bind_eq_ok, pure_eq_ok] at read
  obtain ⟨_, _, _, _, _, _, _, _, _, _, _, _, _, _, rfl⟩ := read
  rfl

/-- The settings of storage have been checked. -/
theorem Reachable.storage_check (reachable : w.Reachable) : w.storage.check = .ok () := by
  induction reachable with
  | new name now => rfl
  | withConfig _ done _ =>
      obtain ⟨_, checked, rfl⟩ := withConfig_eq_ok.1 done
      exact checked
  | declare _ done ih =>
      obtain ⟨_, _, rfl⟩ := declare_eq_ok.1 done
      exact ih
  | compose _ done ih =>
      obtain ⟨_, _, _, _, _, _, rfl⟩ := compose_eq_ok.1 done
      exact ih
  | defineSet _ done ih =>
      obtain ⟨_, _, _, _, rfl⟩ := defineSet_eq_ok.1 done
      exact ih
  | setValue _ done ih =>
      obtain ⟨_, _, rfl⟩ := setValue_eq_ok.1 done
      exact ih
  | setRange _ done ih =>
      obtain ⟨_, _, rfl⟩ := setRange_eq_ok.1 done
      exact ih
  | saveSnapshot _ done ih =>
      obtain ⟨_, _, rfl⟩ := saveSnapshot_eq_ok.1 done
      exact ih
  | restoreSnapshot _ done ih =>
      obtain ⟨_, _, rfl⟩ := restoreSnapshot_eq_ok.1 done
      exact ih
  | importRows _ _ done ih | importGenerated _ _ _ done ih _ =>
      obtain ⟨_, _, rfl⟩ := importDataset_eq_ok.1 done
      exact ih
  | ofText read =>
      obtain ⟨_, decoded, _⟩ := exists_value_of_ofText read
      rw [storage_of_ofJson decoded]
      rfl
  | load read =>
      obtain ⟨_, decoded, _⟩ := exists_value_of_load read
      rw [storage_of_ofJson decoded]
      rfl

/-- A reachable workspace whose numbers and moments can be read back is read from
its text, and it is saved and loaded if it is not too long and its file can be
replaced. -/
theorem Reachable.restored_from_storage (reachable : w.Reachable) (readable : w.Readable) :
    Workspace.ofText w.toText =
        .ok { w with sampling := Sampling.Config.standard, storage := StorageConfig.standard } ∧
      ∀ (attempt : Storage.Attempt) (directory after : Directory) (path : String),
        (Artifact.payload w.toJson).length ≤ w.storage.maxSize →
        Storage.replace attempt directory path w.storage.syncOnWrite
            (Artifact.frame (Artifact.payload w.toJson)) = (.ok (), after) →
        (∃ size, w.save attempt directory path = (.ok size, after)) ∧
          Workspace.load after path =
            .ok { w with sampling := Sampling.Config.standard, storage := StorageConfig.standard } := by
  refine ⟨reachable.valid.ofText_toText readable, ?_⟩
  intro attempt directory after path fits replaced
  have configured := reachable.storage_check
  have limited := Storage.maxSize_le configured
  constructor
  · exact ⟨_, Storage.save_eq_ok configured fits replaced⟩
  · exact reachable.valid.load_of_replace readable (by omega) replaced

/-- A normal density with a snapshot and a data set. -/
def gaussianModel : Except ModelError Workspace := do
  let (_, w) ← (new "w" ⟨0, 0, 0⟩).declare "Gaussian::g(x[-5,5],m[0.5,-1,1],s[1,0.1,2])"
  let w ← w.saveSnapshot "before" ["m", "s"] ⟨0, 0, 0⟩
  let rows ← Dataset.ofRows "rows" ["x"] [[0.25]]
  w.importDataset (rows.rename "d")

theorem reachable_gaussianModel {w : Workspace} (built : gaussianModel = .ok w) : w.Reachable := by
  simp only [gaussianModel, bind_eq_ok] at built
  obtain ⟨_, declared, _, saved, _, made, imported⟩ := built
  exact .importRows (.saveSnapshot (.declare (.new _ _) declared) saved) made imported

theorem restored_from_storage_gaussianModel : ∃ (w : Workspace) (after : Directory),
    gaussianModel = .ok w ∧ w.Reachable ∧ w.Readable ∧
      Workspace.ofText w.toText =
        .ok { w with sampling := Sampling.Config.standard, storage := StorageConfig.standard } ∧
      (∃ size, w.save (.smooth "t") Directory.empty "w.kmdl" = (.ok size, after)) ∧
      Workspace.load after "w.kmdl" =
        .ok { w with sampling := Sampling.Config.standard, storage := StorageConfig.standard } := by
  have evaluated : gaussianModel.toOption.any (fun w => decide (w.Readable ∧
      w.toJson.compact.utf8ByteSize ≤ w.storage.maxSize ∧
      (Storage.replace (.smooth "t") Directory.empty "w.kmdl" w.storage.syncOnWrite
        (Artifact.frame (Artifact.payload w.toJson))).1.toBool = true)) = true := by
    decide +kernel
  cases built : gaussianModel with
  | error e => simp [built, Except.toOption] at evaluated
  | ok w =>
      simp only [built, Except.toOption, Option.any_some, decide_eq_true_eq] at evaluated
      obtain ⟨readable, short, succeeded⟩ := evaluated
      have reachable := reachable_gaussianModel built
      have fits : (Artifact.payload w.toJson).length ≤ w.storage.maxSize := by
        rwa [Artifact.payload, Text.length_encode]
      obtain ⟨result, resultEq⟩ := exists_ok_of_toBool succeeded
      obtain ⟨fromText, fromFile⟩ := Reachable.restored_from_storage reachable readable
      have stored := fromFile _ _ _ _ fits (Prod.ext resultEq rfl)
      exact ⟨w, _, rfl, reachable, readable, fromText, stored⟩

end Workspace

end DensityGraph
