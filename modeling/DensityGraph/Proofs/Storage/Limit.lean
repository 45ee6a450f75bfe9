import DensityGraph.Proofs.Storage

/-!
# The limit of what is saved

Whether a value is too long is decided before anything is written.  Two limits count:
that of the settings, and that of frames, which the settings cannot exceed.  A value
beyond the first one alone is reported as a file that cannot be written, and a value
beyond both of them as corrupt.
-/

namespace DensityGraph.Storage

variable {config : StorageConfig} {value : Json} {path : String}

theorem maxSize_le (configured : config.check = .ok ()) : config.maxSize ≤ Artifact.maxPayload := by
  unfold StorageConfig.check at configured
  split at configured
  · cases configured
  split at configured
  · cases configured
  rename_i within
  exact Nat.le_of_not_lt within

/-- What is left of a frame without its overhead is the payload. -/
theorem length_frame_sub (held : Bytes) : (Artifact.frame held).length - Artifact.overhead = held.length := by
  rw [Artifact.length_frame, Nat.add_sub_cancel]

/-- The limit of frames counts first. -/
theorem frameFor_eq (configured : config.check = .ok ()) : frameFor config path value =
    if Artifact.maxPayload < (Artifact.payload value).length then
      .error (.corrupt (.payloadTooLong (Artifact.payload value).length Artifact.maxPayload))
    else if config.maxSize < (Artifact.payload value).length then
      .error (.file .write path (.tooLarge (Artifact.payload value).length config.maxSize))
    else .ok (Artifact.frame (Artifact.payload value)) := by
  rw [frameFor, configured, ok_bind, Artifact.encode, Artifact.compactSize_eq_length]
  dsimp only
  split
  · rfl
  · rw [ok_bind, length_frame_sub]
    split <;> rfl

/-- A value that is too long is refused, whatever the directory holds and whatever
would become of an attempt to write it: nothing is attempted. -/
theorem save_over_limit (configured : config.check = .ok ())
    (long : config.maxSize < (Artifact.payload value).length) (attempt : Attempt) (directory : Directory)
    (path : String) :
    save attempt config directory path value =
      (.error (if (Artifact.payload value).length ≤ Artifact.maxPayload then
          .file .write path (.tooLarge (Artifact.payload value).length config.maxSize)
        else .corrupt (.payloadTooLong (Artifact.payload value).length Artifact.maxPayload)), directory) := by
  rw [save, frameFor_eq configured]
  by_cases fits : (Artifact.payload value).length ≤ Artifact.maxPayload
  · rw [if_neg (Nat.not_lt.mpr fits), if_pos long, if_pos fits]
  · rw [if_pos (Nat.lt_of_not_le fits), if_neg fits]

/-- A text of equal letters. -/
def letters (count : Nat) : Json := .string (String.ofList (List.replicate count 'n'))

theorem length_payload_letters (count : Nat) : (Artifact.payload (letters count)).length = count + 2 := by
  have folded : ∀ start, (List.replicate count 'n').foldl (fun size c => size + Json.escapedSize c) start =
      start + count := by
    induction count with
    | zero => exact fun _ => rfl
    | succ count ih =>
        intro start
        rw [List.replicate_succ, List.foldl_cons, ih]
        have one : Json.escapedSize 'n' = 1 := by decide
        omega
  rw [← Artifact.compactSize_eq_length, letters, Json.compactSize, Json.quotedSize, String.toList_ofList, folded,
    Nat.add_comm]

/-- A text that is too long by two bytes, for the file of another one. -/
theorem save_over_limit_letters :
    StorageConfig.check ⟨false, 4096⟩ = .ok () ∧ 4096 < (Artifact.payload (letters 4096)).length ∧
      save (.smooth "t") ⟨false, 4096⟩ (Directory.empty.put "f" [1]) "f" (letters 4096) =
        (.error (.file .write "f" (.tooLarge 4098 4096)), Directory.empty.put "f" [1]) := by
  have size := length_payload_letters 4096
  have long : 4096 < (Artifact.payload (letters 4096)).length := by omega
  have fits : (Artifact.payload (letters 4096)).length ≤ Artifact.maxPayload := by
    rw [size]
    decide
  refine ⟨rfl, long, ?_⟩
  rw [save_over_limit rfl long, if_pos fits, size]

/-- A text that is too long for a frame is not reported as a file that cannot be
written. -/
theorem not_file_of_longText :
    StorageConfig.standard.check = .ok () ∧
      StorageConfig.standard.maxSize < (Artifact.payload (letters 268435456)).length ∧
      ¬ ∃ action place cause, (save (.smooth "t") .standard .empty "f" (letters 268435456)).1 =
        .error (.file action place cause) := by
  have size := length_payload_letters 268435456
  have long : Artifact.maxPayload < (Artifact.payload (letters 268435456)).length := by
    rw [size, Artifact.maxPayload]
    omega
  refine ⟨rfl, long, ?_⟩
  rintro ⟨action, place, cause, reported⟩
  rw [save, frameFor_eq rfl, if_pos long] at reported
  cases reported

end DensityGraph.Storage
