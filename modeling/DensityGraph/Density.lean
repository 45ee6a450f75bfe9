/-! # Densities

The probability densities of a model.  A density names the parameters and densities that it is made of.
-/

namespace DensityGraph

/-- A branch of a mixture and the parameter that holds its weight. -/
structure Branch where
  weight : String
  density : String
  deriving DecidableEq, Repr

/-- How a density is made. -/
inductive Density.Kind where
  /-- the normal density of `x` -/
  | gaussian (x mean sigma : String)
  /-- the flat density over the bounds of each parameter -/
  | uniform (parameters : List String)
  /-- the product of densities of different parameters -/
  | product (factors : List String)
  /-- a mixture, whose remainder takes the weight that the branches leave -/
  | mixture (branches : List Branch) (remainder : String)
  /-- the shared parameter is drawn from the marginal, and the conditionals are drawn at its value -/
  | conditionalJoint (shared marginal : String) (conditionals : List String)
  deriving DecidableEq, Repr

/-- A named density. -/
structure Density where
  name : String
  kind : Density.Kind
  deriving DecidableEq, Repr

namespace Density

def kindWord (d : Density) : String :=
  match d.kind with
  | .gaussian .. => "Gaussian"
  | .uniform _ => "Uniform"
  | .product _ => "Product"
  | .mixture .. => "Sum"
  | .conditionalJoint .. => "ConditionalJoint"

def parameterRefs (d : Density) : List String :=
  match d.kind with
  | .gaussian x mean sigma => [x, mean, sigma]
  | .uniform parameters => parameters
  | .product _ => []
  | .mixture branches _ => branches.map (·.weight)
  | .conditionalJoint shared _ _ => [shared]

def densityRefs (d : Density) : List String :=
  match d.kind with
  | .gaussian .. => []
  | .uniform _ => []
  | .product factors => factors
  | .mixture branches remainder => branches.map (·.density) ++ [remainder]
  | .conditionalJoint _ marginal conditionals => marginal :: conditionals

/-- All names that a density depends on, parameters first. -/
def dependencies (d : Density) : List String := d.parameterRefs ++ d.densityRefs

end Density

end DensityGraph
