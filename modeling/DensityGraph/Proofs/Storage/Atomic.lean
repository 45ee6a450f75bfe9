import DensityGraph.Proofs.Storage

/-!
# Saving is atomic

A save either fails, and then the directory is exactly what it was, or it puts a
whole artifact under the name of its path.  It makes no difference which steps are
refused, or what the path has led to before.
-/

namespace DensityGraph.Storage

variable {attempt : Attempt} {config : StorageConfig} {directory after : Directory} {path : String} {value : Json}
  {frame : Bytes} {size : Nat} {e : ModelError}

theorem encode_of_frameFor (framed : frameFor config path value = .ok frame) : Artifact.encode value = .ok frame := by
  simp only [frameFor, bind_eq_ok, throw_bind, guard_eq_ok, pure_eq_ok] at framed
  obtain ⟨_, _, encoded, made, _, rfl⟩ := framed
  exact made

/-- A save succeeds if there is a frame to be written and nothing stands in the way
of writing it. -/
theorem save_eq_ok_iff : save attempt config directory path value = (.ok size, after) ↔
    ∃ frame name, frameFor config path value = .ok frame ∧
      attempt.GoesThrough directory path config.syncOnWrite name ∧
      size = (Artifact.header ++ frame).length ∧ after = directory.put name (Artifact.header ++ frame) := by
  unfold save
  constructor
  · intro saved
    split at saved
    case h_1 => cases (Prod.mk.inj saved).1
    case h_2 frame framed =>
      split at saved
      case h_1 => cases (Prod.mk.inj saved).1
      case h_2 replaced =>
        obtain ⟨name, goesThrough, rfl⟩ := replace_eq_ok.1 replaced
        obtain ⟨sizeEq, rfl⟩ := Prod.mk.inj saved
        refine ⟨frame, name, framed, goesThrough, ?_, rfl⟩
        rw [List.length_append]
        exact (Except.ok.inj sizeEq).symm
  · rintro ⟨frame, name, framed, goesThrough, rfl, rfl⟩
    have replaced : replace attempt directory path config.syncOnWrite frame = (.ok (), _) :=
      replace_eq_ok.2 ⟨name, goesThrough, rfl⟩
    simp only [framed, replaced, List.length_append]

theorem save_eq_error (failed : save attempt config directory path value = (.error e, after)) :
    after = directory := by
  unfold save at failed
  split at failed
  case h_1 => exact (Prod.mk.inj failed).2.symm
  case h_2 =>
    split at failed
    case h_1 replaced =>
      rw [← (Prod.mk.inj failed).2]
      exact replace_eq_error replaced
    case h_2 => cases (Prod.mk.inj failed).1

/-- A path leads to the artifact of a value, and every other name to what it did in the
directory before. -/
def Written (directory after : Directory) (path : String) (value : Json) : Prop :=
  ∃ name frame, Artifact.encode value = .ok frame ∧ Path.fileName? path = some name ∧
    after.get? name = some (Artifact.header ++ frame) ∧ contents after path = .ok (Artifact.header ++ frame) ∧
    ∀ other, other ≠ name → after.get? other = directory.get? other

theorem written_of_save (saved : save attempt config directory path value = (.ok size, after)) :
    Written directory after path value := by
  obtain ⟨frame, name, framed, goesThrough, _, rfl⟩ := save_eq_ok_iff.1 saved
  exact ⟨name, frame, encode_of_frameFor framed, goesThrough.names.fileName?, Directory.get?_put,
    contents_put_of_names goesThrough.names goesThrough.isFile,
    fun other different => Directory.get?_put_of_ne different⟩

/-- Whatever the directory holds and whichever steps are refused, a save fails and
leaves the directory as it was, or it gives the number of bytes of the artifact of the
value, to which the path leads from then on, while every other name, that of the
temporary file included, leads to what it did before.  It succeeds exactly if there is
a frame to be written and nothing stands in its way. -/
theorem save_atomic (attempt : Attempt) (config : StorageConfig) (directory : Directory) (path : String)
    (value : Json) :
    ((∃ e, save attempt config directory path value = (.error e, directory)) ∨
      ∃ name frame after, save attempt config directory path value = (.ok (Artifact.header ++ frame).length, after) ∧
        Artifact.encode value = .ok frame ∧ Path.fileName? path = some name ∧
        after.get? name = some (Artifact.header ++ frame) ∧ contents after path = .ok (Artifact.header ++ frame) ∧
        ∀ other, other ≠ name → after.get? other = directory.get? other) ∧
    ((∃ size after, save attempt config directory path value = (.ok size, after)) ↔
      (∃ frame, frameFor config path value = .ok frame) ∧
        ∃ name, attempt.GoesThrough directory path config.syncOnWrite name) := by
  constructor
  · cases saved : save attempt config directory path value with
    | mk result after =>
        cases result with
        | error e =>
            obtain rfl := save_eq_error saved
            exact .inl ⟨e, rfl⟩
        | ok size =>
            obtain ⟨name, frame, encoded, written⟩ := written_of_save saved
            obtain ⟨other, _, framed, _, rfl, _⟩ := save_eq_ok_iff.1 saved
            obtain rfl := Except.ok.inj ((encode_of_frameFor framed).symm.trans encoded)
            exact .inr ⟨name, _, after, rfl, encoded, written⟩
  · constructor
    · rintro ⟨size, after, saved⟩
      obtain ⟨frame, name, framed, goesThrough, _⟩ := save_eq_ok_iff.1 saved
      exact ⟨⟨frame, framed⟩, name, goesThrough⟩
    · rintro ⟨⟨frame, framed⟩, name, goesThrough⟩
      exact ⟨_, _, save_eq_ok_iff.2 ⟨frame, name, framed, goesThrough, rfl, rfl⟩⟩

/-- Two files, of which the first is to be replaced. -/
def twoFiles : Directory := (Directory.empty.put "b" [2]).put "a" [1]

/-- The first file is replaced and the second one stays; if the move at the end is
refused both of them stay. -/
theorem save_atomic_twoFiles :
    (∃ size after, save (.smooth "t") .standard twoFiles "a" (.bool true) = (.ok size, after) ∧
      after.get? "b" = some [2]) ∧
    ∃ e, save ⟨"t", fun step => if step = .rename then some .notFound else none⟩ .standard twoFiles "a"
      (.bool true) = (.error e, twoFiles) := by
  constructor
  · have succeeds : (save (.smooth "t") .standard twoFiles "a" (.bool true)).1.toBool = true := by decide +kernel
    obtain ⟨e, failed⟩ | ⟨name, _, after, saved, _, named, _, _, others⟩ :=
      (save_atomic (.smooth "t") .standard twoFiles "a" (.bool true)).1
    · rw [failed] at succeeds
      cases succeeds
    · have only : Path.fileName? "a" = some "a" := by decide +kernel
      obtain rfl : "a" = name := Option.some.inj (only.symm.trans named)
      exact ⟨_, after, saved, others "b" (by decide)⟩
  · have fails : (save ⟨"t", fun step => if step = .rename then some .notFound else none⟩ .standard twoFiles "a"
        (.bool true)).1.toBool = false := by decide +kernel
    obtain ⟨e, failed⟩ | ⟨_, _, _, saved, _⟩ :=
      (save_atomic ⟨"t", fun step => if step = .rename then some .notFound else none⟩ .standard twoFiles "a"
        (.bool true)).1
    · exact ⟨e, failed⟩
    · rw [saved] at fails
      cases fails

end DensityGraph.Storage
