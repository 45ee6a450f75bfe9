import DensityGraph.Proofs.Artifact
import DensityGraph.Storage.Artifact

/-!
# Files that are replaced

While a file is being replaced the directory has one file more, which the writer
holds.  Wherever the replacement ends, either this file is gone again and the
directory is what it was, or the file has become the one that the path leads to.
-/

namespace DensityGraph

/-- A path names a file of the current directory. -/
structure Path.Names (path name : String) : Prop where
  noNul : path.toList.contains '\x00' = false
  nonempty : path ≠ ""
  fits : fits path = true
  single : parts path = [name]
  notParent : name ≠ ".."

theorem Path.Names.fileName? {path name : String} (names : Names path name) : fileName? path = some name := by
  rw [Path.fileName?, names.single]
  exact if_neg names.notParent

namespace Directory

variable {directory : Directory} {path name other : String} {bytes : Bytes}

theorem get?_put : (directory.put name bytes).get? name = some bytes := by
  simp [put, get?]

theorem get?_erase_of_ne (different : other ≠ name) : (directory.erase name).get? other = directory.get? other := by
  unfold get? erase
  induction directory.files with
  | nil => rfl
  | cons file rest ih =>
      obtain ⟨own, contents⟩ := file
      dsimp only at ih ⊢
      by_cases erased : own = name
      · have notIt : (other == own) = false := beq_false_of_ne (erased ▸ different)
        rw [List.filter_cons_of_neg (by simpa using erased), List.lookup_cons, notIt]
        exact ih
      · rw [List.filter_cons_of_pos (by simpa using erased), List.lookup_cons, List.lookup_cons, ih]

theorem get?_put_of_ne (different : other ≠ name) : (directory.put name bytes).get? other = directory.get? other := by
  have notIt : (other == name) = false := beq_false_of_ne different
  calc (directory.put name bytes).get? other
      = (directory.erase name).get? other := by simp only [put, get?, List.lookup_cons, notIt]
    _ = directory.get? other := get?_erase_of_ne different

theorem erase_put : (directory.put name bytes).erase name = directory.erase name := by
  simp [put, erase]

theorem put_put {contents : Bytes} : (directory.put name bytes).put name contents = directory.put name contents := by
  rw [put, erase_put]
  rfl

/-- A file that is not there need not be erased. -/
theorem erase_of_get?_eq_none (free : directory.get? name = none) : directory.erase name = directory := by
  obtain ⟨files⟩ := directory
  rw [get?, List.lookup_eq_none_iff] at free
  simp only [erase, mk.injEq]
  refine List.filter_eq_self.mpr ?_
  intro file member
  simpa [bne_iff_ne, ne_comm] using free file member

theorem names_of_locate (located : directory.locate path = .file name ∨ directory.locate path = .absent name) :
    Path.Names path name := by
  unfold locate at located
  split at located
  · simp at located
  split at located
  · simp at located
  split at located
  · simp at located
  rename_i noNul nonempty fits
  split at located
  · simp at located
  · rename_i only single
    split at located
    · simp at located
    rename_i notParent
    obtain rfl : only = name := by
      split at located
      · split at located
        · simp at located
        · simpa using located
      · simpa using located
    exact ⟨by simpa using noNul, nonempty, by simpa using fits, single, notParent⟩
  · split at located
    · simp at located
    · split at located
      · split at located
        all_goals simp at located
      · simp at located

/-- Where a path leads that names a file. -/
theorem locate_of_names (names : Path.Names path name) : directory.locate path =
    if (directory.get? name).isSome then if Path.wantsDirectory path then .error .notADirectory else .file name
    else .absent name := by
  obtain ⟨noNul, nonempty, fits, single, notParent⟩ := names
  simp only [locate, noNul, nonempty, fits, single, notParent, Bool.false_eq_true, Bool.not_true, if_false]

theorem locate_eq_file : directory.locate path = .file name ↔
    Path.Names path name ∧ Path.wantsDirectory path = false ∧ (directory.get? name).isSome = true := by
  constructor
  · intro located
    have names := names_of_locate (.inl located)
    rw [locate_of_names names] at located
    split at located
    · rename_i present
      split at located
      · cases located
      · rename_i isFile
        exact ⟨names, by simpa using isFile, present⟩
    · cases located
  · rintro ⟨names, isFile, present⟩
    rw [locate_of_names names, present, isFile]
    rfl

theorem locate_eq_absent : directory.locate path = .absent name ↔
    Path.Names path name ∧ directory.get? name = none := by
  constructor
  · intro located
    have names := names_of_locate (.inr located)
    rw [locate_of_names names] at located
    split at located
    · split at located
      all_goals cases located
    · rename_i missing
      exact ⟨names, by simpa using missing⟩
  · rintro ⟨names, missing⟩
    rw [locate_of_names names, missing]
    rfl

end Directory

namespace Storage

variable {directory after written : Directory} {attempt : Attempt} {path name : String} {sync : Bool}
  {frame bytes contents : Bytes} {writer : Writer} {cause : FileError}

theorem Attempt.proceed_eq_ok {step : Step} : attempt.proceed step = .ok () ↔ attempt.refuses step = none := by
  unfold Attempt.proceed
  cases attempt.refuses step <;> simp

/-- Where a file can be moved does not depend on the files that are there. -/
theorem Writer.destination_eq_ok : Writer.destination directory path = .ok name ↔
    Path.Names path name ∧ Path.wantsDirectory path = false := by
  constructor
  · intro found
    unfold Writer.destination at found
    split at found
    case h_1 located =>
      obtain rfl := Except.ok.inj found
      obtain ⟨names, isFile, _⟩ := Directory.locate_eq_file.1 located
      exact ⟨names, isFile⟩
    case h_2 located =>
      split at found
      · cases found
      · rename_i isFile
        obtain rfl := Except.ok.inj found
        exact ⟨(Directory.locate_eq_absent.1 located).1, by simpa using isFile⟩
    all_goals cases found
  · rintro ⟨names, isFile⟩
    unfold Writer.destination
    cases held : directory.get? name with
    | none =>
        rw [Directory.locate_eq_absent.2 ⟨names, held⟩]
        exact if_neg (by simp [isFile])
    | some contents => rw [Directory.locate_eq_file.2 ⟨names, isFile, by rw [held]; rfl⟩]

/-- Beside a file a new one can be created if its name is one and is free. -/
theorem Writer.place_eq_ok {token temporary : String} (names : Path.Names path name) :
    Writer.place directory path token = .ok temporary ↔
      Path.Names (Writer.temporaryName name token) temporary ∧ directory.get? temporary = none := by
  rw [← Directory.locate_eq_absent]
  unfold Writer.place
  simp only [names.fileName?, names.single, List.dropLast_singleton]
  constructor
  · intro placed
    split at placed
    case h_1 located =>
      obtain rfl := Except.ok.inj placed
      exact located
    all_goals cases placed
  · intro located
    rw [located]

theorem Writer.get?_of_place {token temporary : String} (placed : Writer.place directory path token = .ok temporary) :
    directory.get? temporary = none := by
  unfold Writer.place at placed
  split at placed
  · cases placed
  split at placed
  · split at placed
    case h_1 located =>
      obtain rfl := Except.ok.inj placed
      exact (Directory.locate_eq_absent.1 located).2
    all_goals cases placed
  · split at placed
    all_goals cases placed

namespace Writer

/-- A writer holds a temporary file with some contents, and the directory differs in
nothing else from the one that the writer has started from. -/
structure Holds (writer : Writer) (temporary : String) (contents : Bytes) (directory written : Directory) : Prop where
  held : writer.temporary? = some temporary
  opened : writer.open? = some temporary
  free : directory.get? temporary = none
  filled : written = directory.put temporary contents

variable {temporary : String}

theorem create_eq_ok : create attempt directory path sync = .ok (writer, written) ↔
    ∃ temporary, place directory path attempt.token = .ok temporary ∧ attempt.refuses .create = none ∧
      writer = opened temporary path sync ∧ written = directory.put temporary Artifact.header := by
  simp only [create, bind_eq_ok, exists_unit, pure_eq_ok, Attempt.proceed_eq_ok, Prod.mk.injEq]

theorem holds_opened (path : String) (sync : Bool) (contents : Bytes) (free : directory.get? temporary = none) :
    (opened temporary path sync).Holds temporary contents directory (directory.put temporary contents) :=
  ⟨rfl, rfl, free, rfl⟩

theorem Holds.write_eq_ok (holds : writer.Holds temporary contents directory written) :
    writer.write attempt written bytes = .ok after ↔
      attempt.refuses .write = none ∧ after = directory.put temporary (contents ++ bytes) := by
  obtain ⟨_, opened, _, rfl⟩ := holds
  simp only [write, opened, bind_eq_ok, exists_unit, pure_eq_ok, Attempt.proceed_eq_ok, Directory.get?_put,
    Option.getD_some, Directory.put_put]

/-- Without the temporary file the directory is what it was. -/
theorem Holds.erase (holds : writer.Holds temporary contents directory written) :
    written.erase temporary = directory := by
  rw [holds.filled, Directory.erase_put, Directory.erase_of_get?_eq_none holds.free]

theorem Holds.discard (holds : writer.Holds temporary contents directory written) :
    writer.discard written = directory := by
  rw [Writer.discard, holds.held]
  exact holds.erase

theorem settle_eq_ok : settle attempt sync = .ok () ↔
    attempt.refuses .flush = none ∧ (sync = true → attempt.refuses .sync = none) := by
  cases sync with
  | true => simp [settle, bind_eq_ok, exists_unit, Attempt.proceed_eq_ok]
  | false => simp [settle, Attempt.proceed_eq_ok]

/-- A file that is moved leaves nothing behind. -/
theorem Holds.rename_eq_ok (holds : writer.Holds temporary contents directory written) :
    rename attempt written temporary path = .ok after ↔
      ∃ name, Path.Names path name ∧ Path.wantsDirectory path = false ∧ attempt.refuses .rename = none ∧
        after = directory.put name contents := by
  have there : written.get? temporary = some contents := by rw [holds.filled, Directory.get?_put]
  simp only [rename, there, bind_eq_ok, exists_unit, pure_eq_ok, destination_eq_ok, Attempt.proceed_eq_ok, holds.erase,
    and_assoc]

/-- A commit that fails leaves the directory that the writer has started from. -/
theorem Holds.commit_eq_error (holds : writer.Holds temporary contents directory written)
    (failed : writer.commit attempt written = (.error cause, after)) : after = directory := by
  unfold commit at failed
  simp only [holds.opened, holds.held] at failed
  split at failed
  · rw [← (Prod.mk.inj failed).2]
    exact holds.erase
  · split at failed
    · rw [← (Prod.mk.inj failed).2]
      exact holds.erase
    · cases (Prod.mk.inj failed).1

theorem Holds.commit_eq_ok (holds : writer.Holds temporary contents directory written) :
    writer.commit attempt written = (.ok (), after) ↔
      settle attempt writer.sync = .ok () ∧ rename attempt written temporary writer.path = .ok after := by
  unfold commit
  simp only [holds.opened, holds.held]
  cases settle attempt writer.sync with
  | error cause => simp
  | ok =>
      cases rename attempt written temporary writer.path with
      | error cause => simp
      | ok renamed => simp [Writer.discard]

end Writer

/-- Nothing stands in the way of replacing the file of a name: the path leads to
files only, the temporary name is free, and no step that is taken is refused. -/
structure Attempt.GoesThrough (attempt : Attempt) (directory : Directory) (path : String) (sync : Bool)
    (name : String) : Prop where
  names : Path.Names path name
  isFile : Path.wantsDirectory path = false
  free : ∃ temporary, Path.Names (Writer.temporaryName name attempt.token) temporary ∧ directory.get? temporary = none
  accepted : ∀ step, (step = .sync → sync = true) → attempt.refuses step = none

/-- A replacement that fails leaves the directory as it was. -/
theorem replace_eq_error (failed : replace attempt directory path sync frame = (.error cause, after)) :
    after = directory := by
  unfold replace at failed
  split at failed
  case h_1 => exact (Prod.mk.inj failed).2.symm
  case h_2 writer created made =>
    obtain ⟨temporary, placed, _, rfl, rfl⟩ := Writer.create_eq_ok.1 made
    have free := Writer.get?_of_place placed
    have holds := Writer.holds_opened path sync Artifact.header free
    split at failed
    case h_1 =>
      rw [← (Prod.mk.inj failed).2]
      exact holds.discard
    case h_2 written added =>
      obtain ⟨_, rfl⟩ := holds.write_eq_ok.1 added
      exact (Writer.holds_opened path sync _ free).commit_eq_error failed

/-- A replacement that succeeds puts the artifact under the name, and does nothing
else. -/
theorem replace_eq_ok : replace attempt directory path sync frame = (.ok (), after) ↔
    ∃ name, attempt.GoesThrough directory path sync name ∧ after = directory.put name (Artifact.header ++ frame) := by
  constructor
  · intro replaced
    unfold replace at replaced
    split at replaced
    case h_1 => cases (Prod.mk.inj replaced).1
    case h_2 writer created made =>
      obtain ⟨temporary, placed, creates, rfl, rfl⟩ := Writer.create_eq_ok.1 made
      have free := Writer.get?_of_place placed
      split at replaced
      case h_1 => cases (Prod.mk.inj replaced).1
      case h_2 written added =>
        obtain ⟨writes, rfl⟩ := (Writer.holds_opened path sync Artifact.header free).write_eq_ok.1 added
        have holdsAll := Writer.holds_opened path sync (Artifact.header ++ frame) free
        obtain ⟨settled, renamed⟩ := holdsAll.commit_eq_ok.1 replaced
        obtain ⟨flushes, syncs⟩ := Writer.settle_eq_ok.1 settled
        obtain ⟨name, names, isFile, renames, rfl⟩ := holdsAll.rename_eq_ok.1 renamed
        refine ⟨name, ⟨names, isFile, ⟨temporary, (Writer.place_eq_ok names).1 placed⟩, ?_⟩, rfl⟩
        intro step taken
        cases step with
        | create => exact creates
        | write => exact writes
        | flush => exact flushes
        | sync => exact syncs (taken rfl)
        | rename => exact renames
  · rintro ⟨name, ⟨names, isFile, ⟨temporary, temporaryNames, free⟩, accepted⟩, rfl⟩
    have unlessSync : ∀ step, step ≠ .sync → attempt.refuses step = none :=
      fun step other => accepted step fun isSync => absurd isSync other
    have placed : Writer.place directory path attempt.token = .ok temporary :=
      (Writer.place_eq_ok names).2 ⟨temporaryNames, free⟩
    have holds := Writer.holds_opened path sync Artifact.header free
    have holdsAll := Writer.holds_opened path sync (Artifact.header ++ frame) free
    have made : Writer.create attempt directory path sync = .ok (Writer.opened temporary path sync, _) :=
      Writer.create_eq_ok.2 ⟨temporary, placed, unlessSync .create nofun, rfl, rfl⟩
    have added : Writer.write attempt (Writer.opened temporary path sync) _ frame = .ok _ :=
      holds.write_eq_ok.2 ⟨unlessSync .write nofun, rfl⟩
    have settled := Writer.settle_eq_ok.2 ⟨unlessSync .flush nofun, fun synced => accepted .sync fun _ => synced⟩
    have renamed := holdsAll.rename_eq_ok.2 ⟨name, names, isFile, unlessSync .rename nofun, rfl⟩
    simp only [replace, made, added]
    exact holdsAll.commit_eq_ok.2 ⟨settled, renamed⟩

theorem contents_put_of_names (names : Path.Names path name) (isFile : Path.wantsDirectory path = false) :
    Storage.contents (directory.put name bytes) path = .ok bytes := by
  have leads : (directory.put name bytes).locate path = .file name := by
    rw [Directory.locate_eq_file, Directory.get?_put]
    exact ⟨names, isFile, rfl⟩
  simp only [Storage.contents, Directory.openable, leads, bind_eq_ok, mapError_eq_ok]
  exact ⟨_, rfl, by rw [Directory.contents, Directory.get?_put]⟩

/-- A path is found to lead to the bytes that have been put where it leads. -/
theorem contents_put {others : Directory}
    (located : directory.locate path = .file name ∨
      directory.locate path = .absent name ∧ Path.wantsDirectory path = false) :
    Storage.contents (others.put name bytes) path = .ok bytes := by
  obtain located | ⟨located, isFile⟩ := located
  · obtain ⟨names, isFile, _⟩ := Directory.locate_eq_file.1 located
    exact contents_put_of_names names isFile
  · exact contents_put_of_names (Directory.locate_eq_absent.1 located).1 isFile

/-- A path whose file has been replaced leads to the artifact. -/
theorem contents_of_replace (replaced : replace attempt directory path sync frame = (.ok (), after)) :
    Storage.contents after path = .ok (Artifact.header ++ frame) := by
  obtain ⟨name, goesThrough, rfl⟩ := replace_eq_ok.1 replaced
  exact contents_put_of_names goesThrough.names goesThrough.isFile

end Storage

end DensityGraph
