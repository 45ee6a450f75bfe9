import DensityGraph.Document.Model
import DensityGraph.Storage.Artifact
import DensityGraph.Workspace.Basic

/-! # Workspaces in files

A workspace is stored as one JSON value.  Reading it back checks the table as soon as it has been read, and the
other parts once all is read, so that what is accepted is a workspace like one that was built.
-/

namespace DensityGraph

open Json (Decoder Refusal)
open Json.Decode (required record)

/-- Values under names as an object. -/
def NameMap.toJson {α : Type} (item : α → Json) (map : NameMap α) : Json :=
  .object (map.entries.map fun entry => (entry.1, item entry.2))

/-- Values under names; of one name the last counts. -/
def NameMap.ofJson {α : Type} (item : Decoder α) : Decoder (NameMap α) := fun value => do
  return NameMap.ofList (← Json.Decode.map item value)

def Timestamp.toJson (t : Timestamp) : Json := .string t.text

def Timestamp.ofJson : Decoder Timestamp := fun value => do
  required (Timestamp.parse? (← Json.Decode.string value))

def Snapshot.toJson (snapshot : Snapshot) : Json :=
  .object [("name", .string snapshot.name), ("values", snapshot.values.toJson .ofFloat),
    ("taken_at", snapshot.takenAt.toJson)]

def Snapshot.ofJson : Decoder Snapshot := fun value => do
  let (name, values, takenAt) ← record ["name", "values", "taken_at"]
    (fun (name, values, takenAt) key value => do
      match key with
      | "name" => return (some (← Json.Decode.string value), values, takenAt)
      | "values" => return (name, some (← NameMap.ofJson Json.Decode.float value), takenAt)
      | _ => return (name, values, some (← Timestamp.ofJson value))) (none, none, none) value
  return ⟨← required name, ← required values, ← required takenAt⟩

def Dataset.toJson (d : Dataset) : Json :=
  .object [("name", .string d.name), ("variables", .ofStrings d.columns),
    ("rows", .array (d.rows.map fun row => .array (row.map .ofFloat)))]

/-- A data set from a value; its rows are not looked at. -/
def Dataset.ofJson : Decoder Dataset := fun value => do
  let (name, columns, rows) ← record ["name", "variables", "rows"]
    (fun (name, columns, rows) key value => do
      match key with
      | "name" => return (some (← Json.Decode.string value), columns, rows)
      | "variables" => return (name, some (← Json.Decode.list Json.Decode.string value), rows)
      | _ => return (name, columns, some (← Json.Decode.list (Json.Decode.list Json.Decode.float) value)))
    (none, none, none) value
  return ⟨← required name, ← required columns, ← required rows⟩

namespace Workspace

/-- The keys of a stored workspace in order. -/
def keys : List String := ["name", "created_at", "symbols", "sets", "snapshots", "datasets"]

/-- A workspace as a value.  Settings are not stored. -/
def toJson (w : Workspace) : Json :=
  .object [("name", .string w.name), ("created_at", w.createdAt.toJson), ("symbols", w.table.toJson),
    ("sets", w.sets.toJson .ofStrings), ("snapshots", w.snapshots.toJson Snapshot.toJson),
    ("datasets", w.datasets.toJson Dataset.toJson)]

/-- The parts of a stored workspace that have been read. -/
structure Parts where
  name : Option String
  createdAt : Option Timestamp
  table : Option Table
  sets : Option (NameMap (List String))
  snapshots : Option Snapshots
  datasets : Option (NameMap Dataset)

def Parts.read (parts : Parts) (key : String) (value : Json) : Except Refusal Parts := do
  match key with
  | "name" => return { parts with name := some (← Json.Decode.string value) }
  | "created_at" => return { parts with createdAt := some (← Timestamp.ofJson value) }
  | "symbols" => return { parts with table := some (← Table.ofJson 1 value) }
  | "sets" =>
    return { parts with sets := some (← NameMap.ofJson (Json.Decode.list Json.Decode.string) value) }
  | "snapshots" => return { parts with snapshots := some (← NameMap.ofJson Snapshot.ofJson value) }
  | _ => return { parts with datasets := some (← NameMap.ofJson Dataset.ofJson value) }

/-- A workspace from a value, with the settings that hold if nothing is said. -/
def ofJson : Decoder Workspace := fun value => do
  let parts ← record keys Parts.read ⟨none, none, none, none, none, none⟩ value
  return ⟨← required parts.name, ← required parts.createdAt, ← required parts.table, ← required parts.sets,
    ← required parts.snapshots, ← required parts.datasets, Sampling.Config.standard, StorageConfig.standard⟩

/-- The text of a workspace, on several lines. -/
def toText (w : Workspace) : String := w.toJson.pretty

end Workspace

def Workspace.ofText (text : String) : Except ModelError Workspace := do
  let w ← ((Json.read text.toList).decode Workspace.ofJson).mapError fun refusal =>
    .corrupt (.document refusal.reason?)
  w.check
  return w

namespace Workspace

/-- Writes a workspace to a path, and gives the number of bytes written. -/
def save (attempt : Storage.Attempt) (directory : Directory) (w : Workspace) (path : String) :
    Except ModelError Nat × Directory :=
  Storage.save attempt w.storage directory path w.toJson

def ofArtifact (path : String) (bytes : Bytes) : Except ModelError Workspace := do
  let w ← Storage.valueOf ofJson path bytes
  w.check
  return w

def load (directory : Directory) (path : String) : Except ModelError Workspace := do
  ofArtifact path (← Storage.contents directory path)

end Workspace

end DensityGraph
