import DensityGraph.Dataset
import DensityGraph.Declaration.Elaboration
import DensityGraph.Sampling.Generate
import DensityGraph.Snapshot
import DensityGraph.Storage.Artifact
import DensityGraph.Text

/-! # Workspaces

A model together with named lists of its parameters, snapshots of their values and stored data sets.
-/

namespace DensityGraph

/-- A model and all that belongs to it.  The two settings are not stored with it. -/
structure Workspace where
  name : String
  createdAt : Timestamp
  table : Table
  sets : NameMap (List String)
  snapshots : Snapshots
  datasets : NameMap Dataset
  sampling : Sampling.Config
  storage : StorageConfig

namespace Workspace

def new (name : String) (now : Timestamp) : Workspace :=
  ⟨name, now, Table.empty, NameMap.empty, NameMap.empty, NameMap.empty, Sampling.Config.standard,
    StorageConfig.standard⟩

def withConfig (w : Workspace) (sampling : Sampling.Config) (storage : StorageConfig) :
    Except ModelError Workspace := do
  sampling.check
  storage.check
  return { w with sampling, storage }

/-- Two workspaces hold the same; settings do not count. -/
def sameContents (a b : Workspace) : Bool :=
  a.name == b.name && a.createdAt == b.createdAt && a.table == b.table && a.sets == b.sets &&
    a.snapshots == b.snapshots && a.datasets == b.datasets

/-- Adds all that a text declares, and gives the declared name. -/
def declare (w : Workspace) (text : String) : Except ModelError (String × Workspace) := do
  let (name, table) ← w.table.declare text
  return (name, { w with table })

/-- Declares the conditional joint of two densities. -/
def compose (w : Workspace) (name conditional shared marginal : String) :
    Except ModelError (String × Workspace) := do
  if w.table.contains name then
    throw (.duplicateName name)
  let d ← w.table.conditionalJoint name [conditional] shared marginal
  let table ← w.table.declareDensity d
  return (name, { w with table })

/-- The members of a set behind those in front: different parameters, without blanks around their names. -/
def checkMembers (table : Table) (before : List String) : List String → Except ModelError (List String)
  | [] => .ok before
  | member :: rest =>
    let name := Text.trim member
    match table.parameter name with
    | .error e => .error e
    | .ok _ =>
      if before.contains name then .error (.duplicateName name)
      else checkMembers table (before ++ [name]) rest

def defineSet (w : Workspace) (name : String) (members : List String) : Except ModelError Workspace := do
  if !isValidName name then
    throw (.declaration (.malformed (.invalidSetName name) 0))
  if w.sets.contains name then
    throw (.duplicateName name)
  let members ← checkMembers w.table [] members
  return { w with sets := w.sets.insert name members }

def set (w : Workspace) (name : String) : Except ModelError (List String) :=
  match w.sets.get? name with
  | some members => .ok members
  | none => .error (.unknownReference name .set)

def value (w : Workspace) (name : String) : Except ModelError Float := w.table.value name

def setValue (w : Workspace) (name : String) (value : Float) : Except ModelError Workspace := do
  let table ← w.table.setValue name value
  return { w with table }

def setRange (w : Workspace) (name : String) (lower upper : Float) : Except ModelError Workspace := do
  let table ← w.table.setRange name lower upper
  return { w with table }

/-- Keeps the current values of parameters under a name. -/
def saveSnapshot (w : Workspace) (name : String) (parameters : List String) (now : Timestamp) :
    Except ModelError Workspace := do
  let snapshots ← w.snapshots.save w.table name (parameters.map Text.trim) now
  return { w with snapshots }

/-- Writes the values kept under a name back, and gives the workspace that this leaves. -/
def restore (w : Workspace) (name : String) : Except ModelError Unit × Workspace :=
  let (result, table) := w.snapshots.restore w.table name
  (result, { w with table })

/-- The workspace with the values kept under a name. -/
def restoreSnapshot (w : Workspace) (name : String) : Except ModelError Workspace :=
  match w.restore name with
  | (.ok (), changed) => .ok changed
  | (.error e, _) => .error e

/-- A data set of observations of a density, and the stream behind it. -/
def generate (w : Workspace) (density : String) (observables : List String) (count : Nat)
    (stream : Random.Stream) : Except Sampling.Stop (Dataset × Random.Stream) :=
  Sampling.generate w.table density observables count w.sampling stream

def generateSeeded (w : Workspace) (density : String) (observables : List String) (count : Nat)
    (seed : UInt64) : Except Sampling.Stop Dataset :=
  Sampling.generateSeeded w.table density observables count w.sampling seed

/-- A data set of the members of a set. -/
def generateSet (w : Workspace) (density set : String) (count : Nat) (stream : Random.Stream) :
    Except Sampling.Stop (Dataset × Random.Stream) :=
  match w.set set with
  | .error e => .error (.error e)
  | .ok observables => w.generate density observables count stream

/-- Stores a data set under its name. -/
def importDataset (w : Workspace) (d : Dataset) : Except ModelError Workspace := do
  if !isValidName d.name then
    throw (.declaration (.malformed (.invalidDatasetName d.name) 0))
  if w.datasets.contains d.name then
    throw (.duplicateName d.name)
  return { w with datasets := w.datasets.insert d.name d }

/-- Something that has a name in a workspace. -/
inductive Object where
  | parameter (parameter : Parameter)
  | density (density : Density)
  | set (members : List String)
  | snapshot (snapshot : Snapshot)
  | dataset (dataset : Dataset)

def Object.kind : Object → String
  | parameter _ => "parameter"
  | density _ => "pdf"
  | set _ => "set"
  | snapshot _ => "snapshot"
  | dataset _ => "dataset"

/-- The object of a name: a node of the model first, then a set, a snapshot, a data set. -/
def object? (w : Workspace) (name : String) : Option Object :=
  match w.table.find? name with
  | some (.parameter p) => some (.parameter p)
  | some (.density d) => some (.density d)
  | none =>
    match w.sets.get? name with
    | some members => some (.set members)
    | none =>
      match w.snapshots.get? name with
      | some snapshot => some (.snapshot snapshot)
      | none => (w.datasets.get? name).map .dataset

/-- An error in something stored, as a corruption of it. -/
def asCorrupt : ModelError → ModelError
  | .corrupt corruption => .corrupt corruption
  | e => .corrupt (.rule e.message)

/-- All members of a stored set are parameters. -/
def checkSet (table : Table) (name : String) (members : List String) : Except ModelError Unit :=
  match members.find? fun member => !(table.parameter member).toBool with
  | none => .ok ()
  | some member => .error (.corrupt (.setMember name member))

/-- A stored data set fits its name and its columns. -/
def checkDataset (key : String) (d : Dataset) : Except ModelError Unit :=
  if key = d.name then d.check.mapError asCorrupt else .error (.corrupt (.datasetKey key d.name))

/-- The parts of a stored workspace fit together. -/
def check (w : Workspace) : Except ModelError Unit := do
  w.table.densities.forM fun d => (w.table.validate d false).mapError asCorrupt
  w.sets.entries.forM fun entry => checkSet w.table entry.1 entry.2
  w.snapshots.check w.table
  w.datasets.entries.forM fun entry => checkDataset entry.1 entry.2

end Workspace

end DensityGraph
