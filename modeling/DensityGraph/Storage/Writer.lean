import DensityGraph.Artifact.Frame
import DensityGraph.Files

/-! # Replacing files

A file is replaced as a whole.  The new contents go to a temporary file beside it, which takes its place at the
end; until then the old contents stay, and if any step fails the temporary file is removed again.
-/

namespace DensityGraph.Storage

/-- A step that a disk may refuse. -/
inductive Step where
  | create
  | write
  | flush
  | sync
  | rename
  deriving DecidableEq, Repr

/-- What comes from outside when a file is replaced: the end of the temporary name, and the steps that fail. -/
structure Attempt where
  token : String
  refuses : Step → Option FileError

/-- An attempt in which no step fails by itself. -/
def Attempt.smooth (token : String) : Attempt := ⟨token, fun _ => none⟩

/-- A step goes on unless the disk refuses it. -/
def Attempt.proceed (attempt : Attempt) (step : Step) : Except FileError Unit :=
  match attempt.refuses step with
  | some cause => .error cause
  | none => .ok ()

/-- A temporary file that is to take the place of a path. -/
structure Writer where
  /-- the temporary file, which is removed with the writer as long as the writer holds it -/
  temporary? : Option String
  path : String
  /-- the temporary file while it is open -/
  open? : Option String
  sync : Bool

namespace Writer

/-- The name of a temporary file for a name. -/
def temporaryName (name token : String) : String := name ++ ".tmp." ++ token

/-- Whether a new file can be created beside a path, and under which name. -/
def place (directory : Directory) (path token : String) : Except FileError String :=
  match Path.fileName? path with
  | none => .error .noFileName
  | some name =>
    match (Path.parts path).dropLast with
    | [] =>
      match directory.locate (temporaryName name token) with
      | .absent temporary => .ok temporary
      | .error cause => .error cause
      | _ => .error .taken
    | _ =>
      match directory.locate path with
      | .error cause => .error cause
      | _ => .error .notFound

/-- The writer to a path that has opened a temporary file. -/
def opened (temporary path : String) (sync : Bool) : Writer := ⟨some temporary, path, some temporary, sync⟩

/-- Creates the temporary file, which starts with the header of artifacts.  What is handed to a file counts as
written, although some of it may stay in memory until the file is flushed. -/
def create (attempt : Attempt) (directory : Directory) (path : String) (sync : Bool) :
    Except FileError (Writer × Directory) := do
  let temporary ← place directory path attempt.token
  attempt.proceed .create
  return (opened temporary path sync, directory.put temporary Artifact.header)

/-- Adds bytes to the temporary file. -/
def write (attempt : Attempt) (writer : Writer) (directory : Directory) (bytes : Bytes) :
    Except FileError Directory :=
  match writer.open? with
  | none => .error (.other "writer already consumed")
  | some temporary => do
    attempt.proceed .write
    return directory.put temporary ((directory.get? temporary).getD [] ++ bytes)

/-- Gives up a writer, and with it the temporary file if the writer still holds it. -/
def discard (writer : Writer) (directory : Directory) : Directory :=
  match writer.temporary? with
  | none => directory
  | some temporary => directory.erase temporary

/-- The name that a file takes when it is moved to a path. -/
def destination (directory : Directory) (path : String) : Except FileError String :=
  match directory.locate path with
  | .file name => .ok name
  | .absent name => if Path.wantsDirectory path then .error .notADirectory else .ok name
  | .directory => .error .isADirectory
  | .error cause => .error cause

/-- Moves a file to a path, over the one that is there. -/
def rename (attempt : Attempt) (directory : Directory) (file path : String) : Except FileError Directory := do
  match directory.get? file with
  | none => throw .notFound
  | some contents =>
    let name ← destination directory path
    attempt.proceed .rename
    return (directory.erase file).put name contents

/-- What has been written leaves the memory and, if asked for, reaches the disk. -/
def settle (attempt : Attempt) (sync : Bool) : Except FileError Unit := do
  attempt.proceed .flush
  if sync then
    attempt.proceed .sync

/-- Puts the temporary file in the place of the path.  The writer is given up wherever this ends; from the moment on
at which the file is to be moved it does not hold the file any more. -/
def commit (attempt : Attempt) (writer : Writer) (directory : Directory) :
    Except FileError Unit × Directory :=
  match writer.open? with
  | none => (.error (.other "writer already consumed"), writer.discard directory)
  | some _ =>
    let writer := { writer with open? := none }
    match settle attempt writer.sync with
    | .error cause => (.error cause, writer.discard directory)
    | .ok () =>
      match writer.temporary? with
      | none => (.error (.other "temp path already consumed"), writer.discard directory)
      | some temporary =>
        let writer := { writer with temporary? := none }
        match rename attempt directory temporary writer.path with
        | .error cause => (.error cause, writer.discard (directory.erase temporary))
        | .ok renamed => (.ok (), writer.discard renamed)

end Writer

/-- Replaces the file of a path by an artifact with the given frame. -/
def replace (attempt : Attempt) (directory : Directory) (path : String) (sync : Bool) (frame : Bytes) :
    Except FileError Unit × Directory :=
  match Writer.create attempt directory path sync with
  | .error cause => (.error cause, directory)
  | .ok (writer, written) =>
    match writer.write attempt written frame with
    | .error cause => (.error cause, writer.discard written)
    | .ok written => writer.commit attempt written

end DensityGraph.Storage
