import DensityGraph.Toml.Reader
import DensityGraph.Toml.Value
import DensityGraph.Workspace.Storage

/-! # Jobs

A job describes a workspace: what is declared in it, the values of its parameters, the snapshots taken of them, and
the data sets that are drawn.  To do it is to build the workspace and to save it.
-/

namespace DensityGraph

/-- A snapshot to be taken. -/
structure Job.SnapshotRequest where
  name : String
  parameters : List String
  deriving DecidableEq, Repr

/-- The variables of a data set: the members of a set, or the given ones. -/
inductive Job.Observables where
  | set (name : String)
  | given (names : List String)
  deriving DecidableEq, Repr

/-- A data set to be drawn; without a seed no two runs draw the same. -/
structure Job.DatasetRequest where
  density : String
  observables : Job.Observables
  count : Nat
  dataset : String
  seed? : Option UInt64
  deriving DecidableEq, Repr

/-- The description of a workspace, and the path that it is saved to. -/
structure Job where
  name : String
  output : String
  declarations : List String
  sets : NameMap (List String)
  values : NameMap Float
  snapshots : List Job.SnapshotRequest
  requests : List Job.DatasetRequest
  sampling : Sampling.Config
  storage : StorageConfig
  deriving Repr

namespace Job

open Toml (field? fieldOr? record? list? map? string? boolean? below? float?)

/-- The name of a workspace if nothing is said. -/
def standardName : String := "workspace"

def SnapshotRequest.ofToml? (value : Toml) : Option SnapshotRequest := do
  let entries ← record? ["name", "parameters"] value
  return ⟨← field? entries "name" string?, ← field? entries "parameters" (list? string?)⟩

def Observables.ofToml? : Toml → Option Observables
  | .string name => some (.set name)
  | value => (list? string? value).map .given

def DatasetRequest.ofToml? (value : Toml) : Option DatasetRequest := do
  let entries ← record? ["pdf", "observables", "count", "dataset", "seed"] value
  return ⟨← field? entries "pdf" string?, ← field? entries "observables" Observables.ofToml?,
    ← field? entries "count" (below? Toml.limit64), ← field? entries "dataset" string?,
    ← fieldOr? entries "seed" (fun value => (below? Toml.limit64 value).map fun n => some (UInt64.ofNat n)) none⟩

def samplingOfToml? (value : Toml) : Option Sampling.Config := do
  let entries ← record? ["max_truncation_attempts"] value
  return ⟨← fieldOr? entries "max_truncation_attempts" (below? Toml.limit32) Sampling.Config.standard.maxAttempts⟩

def storageOfToml? (value : Toml) : Option StorageConfig := do
  let entries ← record? ["sync_on_write", "max_artifact_size"] value
  return ⟨← fieldOr? entries "sync_on_write" boolean? StorageConfig.standard.syncOnWrite,
    ← fieldOr? entries "max_artifact_size" (below? Toml.limit64) StorageConfig.standard.maxSize⟩

def ofEntries? (entries : Toml.Entries) : Option Job := do
  return {
    name := ← fieldOr? entries "name" string? standardName
    output := ← field? entries "output" string?
    declarations := ← field? entries "declarations" (list? string?)
    sets := ← fieldOr? entries "sets" (map? (list? string?)) NameMap.empty
    values := ← fieldOr? entries "values" (map? float?) NameMap.empty
    snapshots := ← fieldOr? entries "snapshots" (list? SnapshotRequest.ofToml?) []
    requests := ← fieldOr? entries "generate" (list? DatasetRequest.ofToml?) []
    sampling := ← fieldOr? entries "sampler" samplingOfToml? Sampling.Config.standard
    storage := ← fieldOr? entries "persist" storageOfToml? StorageConfig.standard }

/-- What has to hold before anything is built. -/
def check (job : Job) : Except ModelError Unit := do
  job.sampling.check
  job.storage.check
  if job.declarations.isEmpty then
    throw (.config .noDeclarations)
  match job.requests.find? fun request => request.count == 0 with
  | some request => throw (.config (.noObservations request.dataset))
  | none => return ()

def ofText (text : String) : Except ModelError Job := do
  match (Toml.read? text).bind ofEntries? with
  | none => throw (.config .notToml)
  | some job =>
    job.check
    return job

end Job

/-- A model with two categories of different resolution, in the form in which jobs are written. -/
def Job.exampleText : String :=
  "\n".intercalate [
    "# kyromodel job file",
    "name = \"w\"",
    "output = \"punzi.kmdl\"",
    "",
    "declarations = [",
    "    \"Gaussian::_g1(x[-5,5],_m1[-1,-3,3],res[1,0.1,2])\",",
    "    \"Gaussian::_g2(x,_m2[1,-3,3],expr::_resm('1.5*res',\x7bres\x7d))\",",
    "    \"Uniform::_p_res(res)\",",
    "    \"SUM::_punzi_model(_f[0.3,0,1]*PROD::_cat1(_g1|res,_p_res),PROD::_cat2(_g2|res,_p_res))\",",
    "]",
    "",
    "[sets]",
    "observables = [\"x\", \"res\"]",
    "",
    "[[snapshots]]",
    "name = \"param_point\"",
    "parameters = [\"_f\", \"_m1\", \"_m2\"]",
    "",
    "[[generate]]",
    "pdf = \"_punzi_model\"",
    "observables = \"observables\"",
    "count = 2000",
    "dataset = \"punzi_example\"",
    "# seed = 42",
    "",
    "[sampler]",
    "max_truncation_attempts = 10000",
    "",
    "[persist]",
    "sync_on_write = true",
    ""]

end DensityGraph

namespace DensityGraph.Job

open DensityGraph.Random (Stream)
open DensityGraph.Sampling (Stop)

def Observables.names (w : Workspace) : Observables → Except ModelError (List String)
  | set name => w.set name
  | given names => .ok names

/-- The model of a job with its sets, values and snapshots. -/
def model (job : Job) (now : Timestamp) : Except ModelError Workspace := do
  let w ← (Workspace.new job.name now).withConfig job.sampling job.storage
  let w ← job.declarations.foldlM (fun w text => (w.declare text).map (·.2)) w
  let w ← job.sets.entries.foldlM (fun w (name, members) => w.defineSet name members) w
  let w ← job.values.entries.foldlM (fun w (name, value) => w.setValue name value) w
  job.snapshots.foldlM (fun w request => w.saveSnapshot request.name request.parameters now) w

/-- The data set of a request.  Those without a seed are drawn from the given stream, which is left where they
end. -/
def drawRequest (w : Workspace) (stream : Stream) (request : DatasetRequest) :
    Except Stop (Dataset × Stream) :=
  match request.observables.names w with
  | .error e => .error (.error e)
  | .ok names =>
    match request.seed? with
    | some seed => (w.generateSeeded request.density names request.count seed).map fun d => (d, stream)
    | none => w.generate request.density names request.count stream

def addDatasets (w : Workspace) (stream : Stream) : List DatasetRequest → Except Stop Workspace
  | [] => .ok w
  | request :: rest =>
    match drawRequest w stream request with
    | .error stop => .error stop
    | .ok (d, stream) =>
      match w.importDataset (d.rename request.dataset) with
      | .error e => .error (.error e)
      | .ok w => addDatasets w stream rest

def build (job : Job) (now : Timestamp) (stream : Stream) : Except Stop Workspace :=
  match job.model now with
  | .error e => .error (.error e)
  | .ok w => addDatasets w stream job.requests

/-- Builds the workspace and saves it. -/
def run (attempt : Storage.Attempt) (directory : Directory) (job : Job) (now : Timestamp) (stream : Stream) :
    Except Stop Workspace × Directory :=
  match job.build now stream with
  | .error stop => (.error stop, directory)
  | .ok w =>
    match w.save attempt directory job.output with
    | (.error e, directory) => (.error (.error e), directory)
    | (.ok _, directory) => (.ok w, directory)

end DensityGraph.Job
