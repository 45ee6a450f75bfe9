import DensityGraph.Composition.Validation
import DensityGraph.Declaration.Parser

/-! # Declaring what a tree says

The nodes of a declaration are added to a table from left to right, those of nested declarations before the
declaration that they stand in.
-/

namespace DensityGraph

namespace Argument

mutual

/-- A name is used in an argument, at any depth; names that nested declarations declare are not uses. -/
def mentions (name : String) : Argument → Bool
  | reference target _ => target == name
  | constant .. => false
  | nested (.free ..) => false
  | nested (.derived _ _ dependencies _) => anyMentions name dependencies
  | nested (.density _ _ arguments _) => anyMentions name arguments
  | conditioned density given _ => given == name || density.mentions name
  | weighted weight density _ => weight.mentions name || density.mentions name

def anyMentions (name : String) : List Argument → Bool
  | [] => false
  | argument :: rest => argument.mentions name || anyMentions name rest

end

end Argument

namespace Declaration

/-- A declaration uses the name that it declares. -/
def namesItself (declaration : Declaration) : Bool :=
  Argument.anyMentions declaration.name declaration.arguments

/-- A test of a declaration, made before anything in it is looked up in the table. -/
abbrev Test := Table → Declaration → Bool

/-- A declaration is new and uses the name that it declares. -/
def isCircular : Test := fun table declaration => !table.contains declaration.name && declaration.namesItself

/-- Work on a table that may fail. -/
abbrev Elaborator := StateT Table (Except ModelError)

namespace Elaborator

/-- Fails unless a check of the table succeeds, and gives its result. -/
def check {α : Type} (test : Table → Except ModelError α) : Elaborator α := fun table =>
  match test table with
  | .ok a => .ok (a, table)
  | .error e => .error e

def change (step : Table → Except ModelError Table) : Elaborator Unit := fun table =>
  match step table with
  | .ok changed => .ok ((), changed)
  | .error e => .error e

def malformed {α : Type} (reason : Reason) (offset : Nat) : Elaborator α :=
  throw (.declaration (.malformed reason offset))

/-- Adds a density that makes sense.  Unknown names are reported before any other fault. -/
def insertDensity (d : Density) : Elaborator String := do
  if (← get).contains d.name then
    throw (.duplicateName d.name)
  check fun table => table.checkParameters d.parameterRefs
  check fun table => table.checkDensities d.densityRefs
  check fun table => table.validate d true
  change fun table => table.declareDensity d
  return d.name

/-- The parameter that a number stands for, declared if no node has its text for a name. -/
def constant (value : Float) (text : String) : Elaborator String := do
  if (← get).contains text then
    let _ ← check fun table => table.parameter text
  else
    let p ← check fun _ => Parameter.constant text value
    change fun table => table.declareParameter p
  return text

/-- The conditionals of a product, grouped by the parameter that they are conditioned on. -/
abbrev Groups := List (String × List String)

def addToGroup (given conditional : String) : Groups → Groups
  | [] => [(given, [conditional])]
  | (name, members) :: rest =>
    if name = given then (name, members ++ [conditional]) :: rest
    else (name, members) :: addToGroup given conditional rest

/-- A group together with the factor that draws its parameter. -/
structure Joint where
  shared : String
  conditionals : List String
  marginal : String
  deriving DecidableEq, Repr

/-- The first of some factors that draws a parameter, and the other factors. -/
def takeGenerator (table : Table) (shared : String) (before : List String) :
    List String → Except ModelError (Option (String × List String))
  | [] => .ok none
  | candidate :: rest =>
    match table.generatedVariables candidate with
    | .error e => .error e
    | .ok names =>
      if names.contains shared then .ok (some (candidate, before.reverse ++ rest))
      else takeGenerator table shared (candidate :: before) rest

/-- Gives each group the first factor that draws its parameter: the joints and the factors left over. -/
def pair (table : Table) (owner : String) (plain : List String) :
    Groups → Except ModelError (List Joint × List String)
  | [] => .ok ([], plain)
  | (shared, conditionals) :: rest =>
    match takeGenerator table shared [] plain with
    | .error e => .error e
    | .ok none => .error (.composition (.noGenerator owner shared conditionals))
    | .ok (some (marginal, plain)) =>
      match pair table owner plain rest with
      | .error e => .error e
      | .ok (joints, plain) => .ok (⟨shared, conditionals, marginal⟩ :: joints, plain)

/-- The name of a joint inside a product. -/
def jointName (owner : String) (joint : Joint) : String :=
  owner ++ "_" ++ joined "_" joint.conditionals ++ "_given_" ++ joint.shared

/-- Adds a conditional joint under a name. -/
def insertJoint (name : String) (joint : Joint) : Elaborator Unit := do
  let d ← check fun table => table.conditionalJoint name joint.conditionals joint.shared joint.marginal
  change fun table => table.declareDensity d

/-- Adds the joints of a product under names of their own. -/
def insertJoints (owner : String) : List Joint → Elaborator (List String)
  | [] => return []
  | joint :: rest => do
    let name := jointName owner joint
    if (← get).contains name then
      throw (.duplicateName name)
    insertJoint name joint
    let names ← insertJoints owner rest
    return name :: names

/-- Adds a product of plain factors and groups of conditionals.  A product that is a single joint is that
joint. -/
def insertProduct (name : String) (plain : List String) (groups : Groups) : Elaborator String := do
  if groups.isEmpty then
    insertDensity ⟨name, .product plain⟩
  else
    match ← check fun table => pair table name plain groups with
    | ([joint], []) =>
      insertJoint name joint
      return name
    | (joints, plain) =>
      let names ← insertJoints name joints
      insertDensity ⟨name, .product (names ++ plain)⟩

end Elaborator

open Elaborator

section

-- every declaration, at any depth, is tested before it is elaborated
variable (refuses : Test)

mutual

/-- Adds a declaration to the table and gives its name, with a test for circular declarations. -/
def elaborateWith (declaration : Declaration) : Elaborator String := do
  if refuses (← get) declaration then
    throw (.cycle declaration.name)
  match declaration with
  | .free name value lower upper _ => do
    let p ← check fun _ => Parameter.free name value lower upper
    change fun table => table.declareParameter p
    return name
  | .derived name source dependencies _ => do
    let names ← elaborateParameters dependencies
    let formula ← check fun _ => (Formula.compile source names).mapError .formula
    change fun table => table.declareParameter (Parameter.derived name formula)
    return name
  | .density .gaussian name [x, mean, sigma] _ => do
    let x ← elaborateParameter x
    let mean ← elaborateParameter mean
    let sigma ← elaborateParameter sigma
    insertDensity ⟨name, .gaussian x mean sigma⟩
  | .density .gaussian _ arguments _ => throw (.declaration (.arity .gaussian arguments.length))
  | .density .uniform _ [] _ => throw (.declaration (.arity .uniform 0))
  | .density .uniform name (first :: rest) _ => do
    let names ← elaborateParameters (first :: rest)
    insertDensity ⟨name, .uniform names⟩
  | .density .mixture _ [] _ => throw (.declaration (.arity .mixture 0))
  | .density .mixture _ [_] _ => throw (.declaration (.arity .mixture 1))
  | .density .mixture name (first :: second :: rest) _ => do
    let (branches, remainder) ← elaborateBranches name (first :: second :: rest)
    insertDensity ⟨name, .mixture branches remainder⟩
  | .density .product _ [] _ => throw (.declaration (.arity .product 0))
  | .density .product name (first :: rest) _ => do
    if (← get).contains name then
      throw (.duplicateName name)
    let (plain, groups) ← elaborateFactors [] [] (first :: rest)
    insertProduct name plain groups

/-- Adds what an argument declares, which must be a parameter, and gives its name. -/
def elaborateParameter (argument : Argument) : Elaborator String := do
  match argument with
  | .reference name _ =>
    let _ ← check fun table => table.parameter name
    return name
  | .constant value text => constant value text
  | .nested declaration =>
    let name ← elaborateWith declaration
    let _ ← check fun table => table.parameter name
    return name
  | .conditioned _ _ offset => malformed .parameterExpected offset
  | .weighted _ _ offset => malformed .parameterExpected offset

def elaborateParameters : List Argument → Elaborator (List String)
  | [] => return []
  | argument :: rest => do
    let name ← elaborateParameter argument
    let names ← elaborateParameters rest
    return name :: names

/-- Adds what an argument declares, which must be a density, and gives its name. -/
def elaborateDensity (argument : Argument) : Elaborator String := do
  match argument with
  | .reference name _ =>
    let _ ← check fun table => table.density name
    return name
  | .constant _ text => throw (.unknownReference text .density)
  | .nested declaration =>
    let name ← elaborateWith declaration
    let _ ← check fun table => table.density name
    return name
  | .conditioned _ _ offset => malformed .conditionedOutsideProduct offset
  | .weighted _ _ offset => malformed .weightedOutsideMixture offset

/-- Adds the branches of a mixture, the last of which has no weight. -/
def elaborateBranches (owner : String) : List Argument → Elaborator (List Branch × String)
  | [] => throw (.declaration (.arity .mixture 0))
  | [.weighted _ _ offset] => malformed (.weightedRemainder owner) offset
  | [remainder] => do
    let name ← elaborateDensity remainder
    return ([], name)
  | .weighted weight part _ :: rest => do
    let weightName ← elaborateParameter weight
    let partName ← elaborateDensity part
    let (branches, remainder) ← elaborateBranches owner rest
    return (⟨weightName, partName⟩ :: branches, remainder)
  | argument :: _ => malformed (.unweightedBranch owner) argument.offset

/-- Adds the factors of a product: the plain ones, and the conditionals by what they are conditioned on. -/
def elaborateFactors (plain : List String) (groups : Groups) : List Argument → Elaborator (List String × Groups)
  | [] => return (plain, groups)
  | .conditioned part given _ :: rest => do
    let name ← elaborateDensity part
    let _ ← check fun table => table.parameter given
    elaborateFactors plain (addToGroup given name groups) rest
  | argument :: rest => do
    let name ← elaborateDensity argument
    elaborateFactors (plain ++ [name]) groups rest

end

end

/-- Adds a declaration to the table and gives its name. -/
def elaborate (declaration : Declaration) : Elaborator String := elaborateWith isCircular declaration

end Declaration

namespace Table

/-- Adds all that a text declares, or nothing if any of it fails, and gives the declared name. -/
def declare (table : Table) (text : String) : Except ModelError (String × Table) :=
  match Declaration.parse text with
  | .error e => .error (.declaration e)
  | .ok declaration => (Declaration.elaborate declaration).run table

end Table

end DensityGraph
