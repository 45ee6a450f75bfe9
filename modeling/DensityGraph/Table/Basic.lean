import DensityGraph.Density
import DensityGraph.Name
import DensityGraph.Parameter

/-! # The table of a model

Parameters and densities in the order of their declaration, under names of their own.  A node can be
declared only when all that it depends on is.
-/

namespace DensityGraph

/-- A parameter or a density. -/
inductive Node where
  | parameter (parameter : Parameter)
  | density (density : Density)
  deriving BEq, Repr

namespace Node

def name : Node → String
  | parameter p => p.name
  | density d => d.name

/-- The names that a node depends on. -/
def dependencies : Node → List String
  | parameter p => p.dependencies
  | density d => d.dependencies

def parameter? : Node → Option Parameter
  | parameter p => some p
  | density _ => none

def density? : Node → Option Density
  | parameter _ => none
  | density d => some d

end Node

/-- All declared nodes, in order. -/
structure Table where
  nodes : List Node
  deriving BEq, Repr

namespace Table

def empty : Table := ⟨[]⟩

def size (table : Table) : Nat := table.nodes.length

def find? (table : Table) (name : String) : Option Node := table.nodes.find? fun node => node.name == name

/-- The place of a name in the order of declaration. -/
def indexOf? (table : Table) (name : String) : Option Nat :=
  table.nodes.findIdx? fun node => node.name == name

def contains (table : Table) (name : String) : Bool := (table.find? name).isSome

def parameters (table : Table) : List Parameter := table.nodes.filterMap Node.parameter?

def densities (table : Table) : List Density := table.nodes.filterMap Node.density?

/-- The node of a declared name. -/
def resolve (table : Table) (name : String) : Except ModelError Node :=
  match table.find? name with
  | some node => .ok node
  | none => .error (.unknownReference name .node)

def parameter (table : Table) (name : String) : Except ModelError Parameter :=
  match (table.find? name).bind Node.parameter? with
  | some p => .ok p
  | none => .error (.unknownReference name .parameter)

def density (table : Table) (name : String) : Except ModelError Density :=
  match (table.find? name).bind Node.density? with
  | some d => .ok d
  | none => .error (.unknownReference name .density)

/-- All names are those of parameters. -/
def checkParameters (table : Table) : List String → Except ModelError Unit
  | [] => .ok ()
  | name :: rest =>
    match table.parameter name with
    | .error e => .error e
    | .ok _ => table.checkParameters rest

/-- All names are those of densities. -/
def checkDensities (table : Table) : List String → Except ModelError Unit
  | [] => .ok ()
  | name :: rest =>
    match table.density name with
    | .error e => .error e
    | .ok _ => table.checkDensities rest

/-- A name that a new node can have. -/
def checkNewName (table : Table) (name : String) : Except ModelError Unit :=
  if !isValidName name then .error (.declaration (.malformed (.invalidName name) 0))
  else if table.contains name then .error (.duplicateName name)
  else .ok ()

def push (table : Table) (node : Node) : Table := ⟨table.nodes ++ [node]⟩

/-- The dependencies of a formula are other parameters. -/
def checkDependencies (table : Table) (own : String) : List String → Except ModelError Unit
  | [] => .ok ()
  | name :: rest =>
    if name = own then .error (.cycle own)
    else
      match table.parameter name with
      | .error e => .error e
      | .ok _ => table.checkDependencies own rest

def declareParameter (table : Table) (p : Parameter) : Except ModelError Table := do
  table.checkNewName p.name
  table.checkDependencies p.name p.dependencies
  return table.push (.parameter p)

/-- Declares a density whose parts are declared, whatever it may mean as a density. -/
def declareDensity (table : Table) (d : Density) : Except ModelError Table := do
  table.checkNewName d.name
  if d.dependencies.contains d.name then
    throw (.cycle d.name)
  table.checkParameters d.parameterRefs
  table.checkDensities d.densityRefs
  return table.push (.density d)

/-- Puts a parameter in the place of the one of its name. -/
def replace (table : Table) (p : Parameter) : Table :=
  ⟨table.nodes.map fun node => if node.name = p.name then .parameter p else node⟩

def setValue (table : Table) (name : String) (value : Float) : Except ModelError Table := do
  let p ← table.parameter name
  let changed ← p.setValue value
  return table.replace changed

def setRange (table : Table) (name : String) (lower upper : Float) : Except ModelError Table := do
  let p ← table.parameter name
  let changed ← p.setRange lower upper
  return table.replace changed

end Table

end DensityGraph
