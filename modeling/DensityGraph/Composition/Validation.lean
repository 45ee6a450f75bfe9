import DensityGraph.Scope
import DensityGraph.Composition.Variables

/-! # Densities that make sense

Factors draw different parameters, the branches of a mixture draw the same ones, and a conditional depends
on the parameter that its marginal draws.
-/

namespace DensityGraph.Table

/-- A name is that of a free parameter, which alone can be drawn. -/
def requireFree (table : Table) (owner name : String) : Except ModelError Unit :=
  match table.parameter name with
  | .error e => .error e
  | .ok p => if p.isFree then .ok () else .error (.composition (.derivedVariable owner name))

/-- Names are those of different free parameters, none of which has been seen. -/
def requireUniform (table : Table) (owner : String) (seen : List String) :
    List String → Except ModelError Unit
  | [] => .ok ()
  | name :: rest => do
    table.requireFree owner name
    if seen.contains name then
      throw (.composition (.repeatedVariable owner name))
    table.requireUniform owner (name :: seen) rest

/-- Adds names to those seen, none of which may have been seen. -/
def requireNew (owner : String) (seen : List String) : List String → Except ModelError (List String)
  | [] => .ok seen
  | name :: rest =>
    if seen.contains name then .error (.composition (.overlap owner name))
    else requireNew owner (name :: seen) rest

/-- Densities draw different parameters, none of which has been seen. -/
def requireDisjoint (table : Table) (owner : String) (seen : List String) :
    List String → Except ModelError Unit
  | [] => .ok ()
  | part :: rest => do
    let names ← table.generatedVariables part
    let seen ← requireNew owner seen names
    table.requireDisjoint owner seen rest

def sameNames (a b : List String) : Bool := a.all b.contains && b.all a.contains

/-- Every branch draws the parameters that the remainder draws. -/
def requireSame (table : Table) (owner remainder : String) (expected : List String) :
    List Branch → Except ModelError Unit
  | [] => .ok ()
  | branch :: rest => do
    let names ← table.generatedVariables branch.density
    if !sameNames names expected then
      throw (.composition (.branchVariables owner branch.density remainder))
    table.requireSame owner remainder expected rest

/-- Every conditional depends on the shared parameter and does not draw it. -/
def requireConditioned (table : Table) (shared : String) : List String → Except ModelError Unit
  | [] => .ok ()
  | conditional :: rest => do
    if (← table.generatedVariables conditional).contains shared then
      throw (.composition (.conditionalGenerates conditional shared))
    if !(← table.densityReads conditional shared) then
      throw (.composition (.unconditioned conditional shared))
    table.requireConditioned shared rest

def validateConditional (table : Table) (owner shared marginal : String) (conditionals : List String) :
    Except ModelError Unit := do
  if conditionals.isEmpty then
    throw (.composition (.noConditional owner))
  table.requireFree owner shared
  if !(← table.generatedVariables marginal).contains shared then
    throw (.composition (.marginalMisses marginal shared))
  table.requireConditioned shared conditionals
  table.requireDisjoint owner [] (marginal :: conditionals)

/-- A density makes sense.  The weights of a mixture are looked at only with `checkValues`, since they may
have been moved after its declaration and are looked at again when data is drawn. -/
def validate (table : Table) (d : Density) (checkValues : Bool) : Except ModelError Unit :=
  match d.kind with
  | .gaussian x _ _ => table.requireFree d.name x
  | .uniform parameters =>
    if parameters.isEmpty then .error (.composition (.emptyUniform d.name))
    else table.requireUniform d.name [] parameters
  | .product factors =>
    if factors.isEmpty then .error (.composition (.emptyProduct d.name))
    else table.requireDisjoint d.name [] factors
  | .mixture branches remainder => do
    if branches.isEmpty then
      throw (.composition (.fewBranches d.name))
    let expected ← table.generatedVariables remainder
    table.requireSame d.name remainder expected branches
    if checkValues then
      let _ ← Scope.mixtureWeights ⟨table, []⟩ branches
  | .conditionalJoint shared marginal conditionals =>
    table.validateConditional d.name shared marginal conditionals

/-- The conditional joint of declared densities, if it makes sense. -/
def conditionalJoint (table : Table) (name : String) (conditionals : List String) (shared marginal : String) :
    Except ModelError Density := do
  let d : Density := ⟨name, .conditionalJoint shared marginal conditionals⟩
  table.checkDensities d.densityRefs
  table.validate d true
  return d

end DensityGraph.Table
