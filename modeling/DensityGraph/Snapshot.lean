import DensityGraph.Name
import DensityGraph.Table.Basic
import DensityGraph.Timestamp

/-! # Snapshots

Values of free parameters, kept under a name and written back on demand, all or none.
-/

namespace DensityGraph

/-- The values of some free parameters at a moment. -/
structure Snapshot where
  name : String
  values : NameMap Float
  takenAt : Timestamp
  deriving DecidableEq, Repr

abbrev Snapshots := NameMap Snapshot

namespace Snapshot

/-- The values of parameters, each of which must be free. -/
def capture (table : Table) (values : NameMap Float) : List String → Except ModelError (NameMap Float)
  | [] => .ok values
  | name :: rest =>
    match table.parameter name with
    | .error e => .error e
    | .ok p =>
      match p.value? with
      | none => .error (.readOnly name)
      | some value => capture table (values.insert name value) rest

/-- Every value lies within the current bounds of its parameter. -/
def checkBounds (table : Table) : List (String × Float) → Except ModelError Unit
  | [] => .ok ()
  | (name, value) :: rest =>
    match table.parameter name with
    | .error e => .error e
    | .ok p =>
      match p.bounds? with
      | none => .error (.readOnly name)
      | some bounds =>
        if bounds.contains value then checkBounds table rest
        else .error (.outOfBounds name value bounds.lower bounds.upper)

/-- Writes values back one by one, up to the first that fails, and gives the table that this leaves. -/
def writeBack (table : Table) : List (String × Float) → Except ModelError Unit × Table
  | [] => (.ok (), table)
  | (name, value) :: rest =>
    match table.setValue name value with
    | .error e => (.error e, table)
    | .ok changed => writeBack changed rest

/-- Writes the values of a snapshot into a table, and gives the table that this leaves.  All are checked before
any is written. -/
def restore (snapshot : Snapshot) (table : Table) : Except ModelError Unit × Table :=
  match checkBounds table snapshot.values.entries with
  | .error e => (.error e, table)
  | .ok () => writeBack table snapshot.values.entries

/-- A value of a free parameter that a stored snapshot can hold. -/
def holdsValue (table : Table) (name : String) (value : Float) : Bool :=
  match table.parameter name with
  | .error _ => false
  | .ok p => p.isFree && value.isFinite

/-- All values of a stored snapshot are ones that it can hold. -/
def checkValues (table : Table) (snapshot : Snapshot) : Except ModelError Unit :=
  match snapshot.values.entries.find? fun entry => !holdsValue table entry.1 entry.2 with
  | none => .ok ()
  | some (name, _) => .error (.corrupt (.snapshotValue snapshot.name name))

/-- A snapshot is stored under its own name. -/
def checkKey (key : String) (snapshot : Snapshot) : Except ModelError Unit :=
  if key = snapshot.name then .ok () else .error (.corrupt (.snapshotKey key snapshot.name))

end Snapshot

namespace Snapshots

/-- Keeps the current values of parameters under a name, instead of those kept under it before. -/
def save (snapshots : Snapshots) (table : Table) (name : String) (parameters : List String)
    (now : Timestamp) : Except ModelError Snapshots :=
  match Snapshot.capture table NameMap.empty parameters with
  | .error e => .error e
  | .ok values => .ok (snapshots.insert name ⟨name, values, now⟩)

/-- Writes the values kept under a name into a table, and gives the table that this leaves. -/
def restore (snapshots : Snapshots) (table : Table) (name : String) : Except ModelError Unit × Table :=
  match snapshots.get? name with
  | none => (.error (.unknownSnapshot name), table)
  | some snapshot => snapshot.restore table

def check (snapshots : Snapshots) (table : Table) : Except ModelError Unit := do
  snapshots.values.forM (Snapshot.checkValues table)
  snapshots.entries.forM fun entry => Snapshot.checkKey entry.1 entry.2

end Snapshots

end DensityGraph
