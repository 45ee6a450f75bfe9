import DensityGraph.Proofs.Artifact.Damage
import DensityGraph.Proofs.Storage
import DensityGraph.Workspace.Storage

/-!
# Damaged files

What a save leaves behind is the artifact of a payload, and loading takes nothing
but artifacts for anything else than damaged.  So a damaged file is always
reported as such.
-/

namespace DensityGraph

open Artifact (Damaged)

variable {α : Type} {decoder : Json.Decoder α} {attempt : Storage.Attempt} {config : StorageConfig}
  {directory after : Directory} {path : String} {value : Json} {size : Nat} {bytes held damaged : Bytes}

namespace Storage

/-- A save that succeeds has written the artifact of its payload. -/
theorem contents_of_save (saved : save attempt config directory path value = (.ok size, after)) :
    (Artifact.payload value).length ≤ Artifact.maxPayload ∧
      contents after path = .ok (Artifact.header ++ Artifact.frame (Artifact.payload value)) := by
  unfold save at saved
  split at saved
  case h_1 => cases saved
  case h_2 frame framed =>
    simp only [frameFor, Artifact.encode_eq_ok, bind_eq_ok, throw_bind, guard_eq_ok, pure_eq_ok] at framed
    obtain ⟨_, _, _, ⟨fits, rfl⟩, _, rfl⟩ := framed
    split at saved
    case h_1 => cases saved
    case h_2 replaced =>
      obtain ⟨_, rfl⟩ := Prod.mk.inj saved
      exact ⟨fits, contents_of_replace replaced⟩

/-- A value is only read from an artifact. -/
theorem artifact_of_valueOf {a : α} (read : valueOf decoder path bytes = .ok a) :
    ∃ held, held.length ≤ Artifact.maxPayload ∧ bytes = Artifact.header ++ Artifact.frame held := by
  simp only [valueOf, Artifact.decode, bind_eq_ok, mapError_eq_ok, throw_bind, guard_eq_ok, pure_eq_ok,
    Artifact.readHeader_eq_ok, Prod.exists, Artifact.unframe_eq_ok] at read
  obtain ⟨_, rfl, _, last, ⟨held, _, ⟨fits, rfl⟩, _, _, same⟩, complete, _⟩ := read
  obtain ⟨_, rfl⟩ := Prod.mk.inj same
  obtain rfl : last = [] := by simpa using complete
  exact ⟨held, fits, by rw [List.append_nil]⟩

/-- Whatever is wrong with bytes that cannot be read is reported as damage. -/
theorem isCorrupt_of_valueOf {e : ModelError} (failed : valueOf decoder path bytes = .error e) :
    ∃ corruption, e = .corrupt corruption := by
  simp only [valueOf, bind_eq_error, mapError_eq_error, throw_bind] at failed
  obtain ⟨fault, _, rfl⟩ | ⟨_, _, ⟨fault, _, rfl⟩ | ⟨_, _, incomplete⟩⟩ := failed
  · exact ⟨_, rfl⟩
  · exact ⟨_, rfl⟩
  · split at incomplete
    · exact ⟨_, (Except.error.inj incomplete).symm⟩
    · cases incomplete

end Storage

namespace Workspace

theorem load_damaged (fits : held.length ≤ Artifact.maxPayload)
    (damage : Damaged (Artifact.header ++ Artifact.frame held) damaged)
    (found : Storage.contents directory path = .ok damaged) :
    ∃ corruption, load directory path = .error (.corrupt corruption) := by
  cases read : Storage.valueOf ofJson path damaged with
  | ok w =>
      obtain ⟨other, fitsToo, same⟩ := Storage.artifact_of_valueOf read
      exact absurd same (damage.ne_artifact fits fitsToo)
  | error e =>
      obtain ⟨corruption, rfl⟩ := Storage.isCorrupt_of_valueOf read
      refine ⟨corruption, ?_⟩
      simp only [load, found, ok_bind, ofArtifact, read]
      rfl

/-- Every save that succeeds leaves the artifact of a payload within the limit, and
loading a workspace from a file that holds a damaged artifact, of whatever payload
within the limit, reports the damage. -/
theorem corrupt_of_damaged :
    (∀ attempt config directory path value size after,
      Storage.save attempt config directory path value = (.ok size, after) →
        (Artifact.payload value).length ≤ Artifact.maxPayload ∧
          Storage.contents after path = .ok (Artifact.header ++ Artifact.frame (Artifact.payload value))) ∧
    ∀ held : Bytes, held.length ≤ Artifact.maxPayload →
      ∀ damaged, Damaged (Artifact.header ++ Artifact.frame held) damaged →
        ∀ directory path, Storage.contents directory path = .ok damaged →
          ∃ corruption, load directory path = .error (.corrupt corruption) := by
  constructor
  · intro attempt config directory path value size after saved
    exact Storage.contents_of_save saved
  · intro held fits damaged damage directory path found
    exact load_damaged fits damage found

/-- The document of an empty workspace. -/
def blank : Json := (new "w" ⟨0, 0, 0⟩).toJson

/-- The lowest byte of the length of a saved workspace is changed. -/
theorem corrupt_of_shortened :
    ∃ (size : Nat) (after : Directory) (damaged : Bytes) (corruption : Corruption),
      Storage.save (.smooth "t") .standard .empty "w.kmdl" blank = (.ok size, after) ∧
        Storage.contents after "w.kmdl" = .ok (Artifact.header ++ Artifact.frame (Artifact.payload blank)) ∧
        Damaged (Artifact.header ++ Artifact.frame (Artifact.payload blank)) damaged ∧
        Storage.contents (after.put "w.kmdl" damaged) "w.kmdl" = .ok damaged ∧
        load (after.put "w.kmdl" damaged) "w.kmdl" = .error (.corrupt corruption) := by
  obtain ⟨written, rejected⟩ := corrupt_of_damaged
  have succeeded : (Storage.save (.smooth "t") .standard .empty "w.kmdl" blank).1.toBool = true := by
    decide +kernel
  cases saved : Storage.save (.smooth "t") .standard .empty "w.kmdl" blank with
  | mk result after =>
      rw [saved] at succeeded
      obtain ⟨size, rfl⟩ := exists_ok_of_toBool succeeded
      obtain ⟨fits, contents⟩ := written _ _ _ _ _ _ _ saved
      have lowest : (Artifact.header ++ Artifact.frame (Artifact.payload blank))[6]? = some 100 := by
        decide +kernel
      have damage := Damaged.changed lowest (show (99 : UInt8) ≠ 100 by decide)
      have free : Directory.empty.locate "w.kmdl" = .absent "w.kmdl" ∧ Path.wantsDirectory "w.kmdl" = false := by
        decide +kernel
      have found : ∀ bytes, Storage.contents (after.put "w.kmdl" bytes) "w.kmdl" = .ok bytes :=
        fun _ => Storage.contents_put (.inr free)
      obtain ⟨corruption, reported⟩ := rejected _ fits _ damage _ "w.kmdl" (found _)
      exact ⟨size, after, _, corruption, rfl, contents, damage, found _, reported⟩

end Workspace

end DensityGraph
