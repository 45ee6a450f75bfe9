import DensityGraph.CommandLine.Run
import Std.Time.DateTime.Timestamp

/-! # The command line

Does the commands on real files.
-/

namespace DensityGraph.CommandLine

def causeOf : IO.Error → FileError
  | .noFileOrDirectory .. => .notFound
  | .alreadyExists .. => .taken
  | .inappropriateType _ code _ => if code = 21 then .isADirectory else .notADirectory
  | e => .other (toString e)

/-- Reads a file.  A directory is opened like a file, and refuses to be read. -/
def readFile (path : String) : IO Contents := do
  try return .ok (← IO.FS.readBinFile path).toList
  catch e =>
    let cause := causeOf e
    return .error (if cause = .isADirectory then .read else .openFile, cause)

/-- The path of a name beside another path. -/
def beside (path name : String) : String :=
  match (Path.pieces path).dropLast with
  | [] => name
  | folders => "/".intercalate (folders ++ [name])

/-- Puts a temporary file in the place of a path, or removes it. -/
def renameOrRemove (temporary path : String) : IO (Except FileError Unit) := do
  try
    IO.FS.rename temporary path
    return .ok ()
  catch e =>
    IO.FS.removeFile temporary
    return .error (causeOf e)

/-- Replaces a file through a temporary one. -/
def replaceFile (path token : String) (frame : Bytes) : IO (Except FileError Unit) := do
  match Path.fileName? path with
  | none => return .error .noFileName
  | some name =>
    let temporary := beside path (Storage.Writer.temporaryName name token)
    try
      IO.FS.writeBinFile temporary ⟨(Artifact.header ++ frame).toArray⟩
      renameOrRemove temporary path
    catch e => return .error (causeOf e)

def storeFile (w : Workspace) (path token : String) : IO (Except ModelError Nat) := do
  match Storage.frameFor w.storage path w.toJson with
  | .error e => return .error e
  | .ok frame =>
    match ← replaceFile path token frame with
    | .error cause => return .error (.file .write path cause)
    | .ok () => return .ok (Artifact.header.length + frame.length)

def presentMoment : IO Timestamp := do
  let t ← Std.Time.Timestamp.now
  let seconds : Int := t.toSecondsSinceUnixEpoch.val
  return ⟨seconds / 86400, (seconds % 86400).toNat, 0⟩

def performReal (arguments : List String) : IO Outcome := do
  match parse? arguments with
  | none => return .badArguments
  | some command =>
    let contents ← match command.input? with
      | some path => readFile path
      | none => pure (.ok [])
    let entropy ← IO.getRandomBytes 8
    let seed := UInt64.ofNat (Bytes.toNat entropy.toList)
    match command.resume (← presentMoment) (Random.Stream.ofSeed seed) contents with
    | .done outcome => return outcome
    | .store w path doing => return stored doing (← storeFile w path (toString seed))

end DensityGraph.CommandLine

/-- Does what the arguments say and tells how it ended. -/
def main (arguments : List String) : IO UInt32 := do
  let outcome ← DensityGraph.CommandLine.performReal arguments
  (← IO.getStdout).putStr outcome.output
  (← IO.getStderr).putStr outcome.errors
  return outcome.exitCode
