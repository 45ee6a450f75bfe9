import DensityGraph.CommandLine.Arguments
import DensityGraph.CommandLine.Output
import DensityGraph.Job

/-! # Doing commands

A command reads one file at most and then writes one file at most.  What it does in between does not depend on where
the files are.
-/

namespace DensityGraph.CommandLine

open DensityGraph.Random (Stream)
open DensityGraph.Sampling (Stop)

structure Outcome where
  exitCode : UInt32
  output : String
  errors : String
  deriving DecidableEq, Repr

namespace Outcome

def success (output : String) : Outcome := ⟨0, output, ""⟩

def failure (doing : String) (e : ModelError) : Outcome := ⟨1, "", report doing e⟩

def badArguments : Outcome := ⟨2, "", ""⟩

/-- Drawing could not go on. -/
def aborted : Outcome := ⟨101, "", ""⟩

end Outcome

/-- What a file holds, or at which step and why it could not be read. -/
abbrev Contents := Except (FileAction × FileError) Bytes

/-- What is left to do. -/
inductive Rest where
  | done (outcome : Outcome)
  | store (w : Workspace) (path : String) (doing : String)

/-- The text of a job file. -/
def jobText (path : String) : Contents → Except ModelError String
  | .error (_, cause) => .error (.file .read path cause)
  | .ok bytes =>
    match Text.decode bytes with
    | (text, true) => .ok (String.ofList text)
    | (_, false) => .error (.file .read path .notText)

def afterJob (path : String) (output? : Option String) (now : Timestamp) (stream : Stream)
    (contents : Contents) : Rest :=
  match (jobText path contents).bind Job.ofText with
  | .error e => .done (.failure ("Failed to load job from " ++ quotedPath path) e)
  | .ok job =>
    let doing := "Job " ++ quotedPath path ++ " failed"
    match job.build now stream with
    | .ok w => .store w (output?.getD job.output) doing
    | .error (.error e) => .done (.failure doing e)
    | .error _ => .done .aborted

def afterArtifact (path : String) (asJson : Bool) (contents : Contents) : Rest :=
  let loaded : Except ModelError Workspace := match contents with
    | .error (action, cause) => .error (.file action path cause)
    | .ok bytes => Workspace.ofArtifact path bytes
  match loaded with
  | .error e => .done (.failure ("Failed to load artifact " ++ quotedPath path) e)
  | .ok w =>
    .done (.success (if asJson then w.toText ++ "\n" else String.join ((listing w).map (· ++ "\n"))))

namespace Command

def input? : Command → Option String
  | run job _ => some job
  | inspect artifact _ => some artifact
  | showExample => none

/-- Goes on with the contents of the file that the command reads. -/
def resume (now : Timestamp) (stream : Stream) (contents : Contents) : Command → Rest
  | run job output? => afterJob job output? now stream contents
  | inspect artifact asJson => afterArtifact artifact asJson contents
  | showExample => .done (.success (Job.exampleText ++ "\n"))

end Command

def stored (doing : String) : Except ModelError Nat → Outcome
  | .ok _ => .success ""
  | .error e => .failure doing e

def read (directory : Directory) (path : String) : Contents := do
  let location ← (directory.openable path).mapError fun cause => (.openFile, cause)
  (directory.contents location).mapError fun cause => (.read, cause)

/-- Does what the arguments say in a directory. -/
def perform (attempt : Storage.Attempt) (now : Timestamp) (stream : Stream) (directory : Directory)
    (arguments : List String) : Outcome × Directory :=
  match parse? arguments with
  | none => (.badArguments, directory)
  | some command =>
    let contents := match command.input? with
      | some path => read directory path
      | none => .ok []
    match command.resume now stream contents with
    | .done outcome => (outcome, directory)
    | .store w path doing =>
      let (result, directory) := w.save attempt directory path
      (stored doing result, directory)

end DensityGraph.CommandLine
