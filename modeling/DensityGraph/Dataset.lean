import DensityGraph.Error

/-! # Data sets

Observations of some variables: one row for each observation, one column for each variable.
-/

namespace DensityGraph

/-- A named table of observations. -/
structure Dataset where
  name : String
  columns : List String
  rows : List (List Float)
  deriving DecidableEq, BEq, Repr

namespace Dataset

/-- The first name that has occurred before. -/
def firstRepeated (seen : List String) : List String → Option String
  | [] => none
  | name :: rest => if seen.contains name then some name else firstRepeated (name :: seen) rest

/-- Rows from a number on have one finite value for each column. -/
def checkRows (name : String) (width : Nat) (number : Nat) : List (List Float) → Except ModelError Unit
  | [] => .ok ()
  | row :: rest =>
    if row.length ≠ width then .error (.corrupt (.rowWidth name number row.length width))
    else if row.all Float.isFinite then checkRows name width (number + 1) rest
    else .error (.corrupt (.notFinite name number))

/-- The columns have different names, and every row has one finite value for each. -/
def check (d : Dataset) : Except ModelError Unit :=
  match firstRepeated [] d.columns with
  | some name => .error (.duplicateName name)
  | none => checkRows d.name d.columns.length 0 d.rows

def ofRows (name : String) (columns : List String) (rows : List (List Float)) :
    Except ModelError Dataset :=
  let d : Dataset := ⟨name, columns, rows⟩
  d.check.map fun _ => d

def rename (d : Dataset) (name : String) : Dataset := { d with name }

def size (d : Dataset) : Nat := d.rows.length

def row? (d : Dataset) (number : Nat) : Option (List Float) := d.rows[number]?

/-- The values of an observation with their variables; of columns of one name the last counts. -/
def record? (d : Dataset) (number : Nat) : Option (List (String × Float)) :=
  (d.row? number).map fun row => (d.columns.zip row).reverse

def get? (d : Dataset) (number : Nat) (name : String) : Option Float :=
  match d.columns.idxOf? name, d.row? number with
  | some place, some row => row[place]?
  | _, _ => none

def column? (d : Dataset) (name : String) : Option (List Float) :=
  match d.columns.idxOf? name with
  | some place => d.rows.mapM fun row => row[place]?
  | none => none

end Dataset

end DensityGraph
