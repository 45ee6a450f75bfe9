import DensityGraph.Table.Basic

/-! # Values of parameters

The value of a parameter is pulled through its formula each time it is asked for.  Values may be overridden
by name, for derived parameters too.  The weights of a mixture are the values of its parameters.
-/

namespace DensityGraph

/-- Values by name, of which the first entry of a name counts. -/
abbrev Overrides := List (String × Float)

/-- A table and the values that stand in front of it. -/
structure Scope where
  table : Table
  overrides : Overrides

namespace Scope

/-- The value of a name whose formulas are nested at most `depth` deep. -/
def valueWithin (scope : Scope) : (depth : Nat) → String → Except ModelError Float
  | depth, name =>
    match scope.overrides.lookup name with
    | some value => .ok value
    | none =>
      match scope.table.parameter name with
      | .error e => .error e
      | .ok p =>
        match p.kind with
        | .free value _ => .ok value
        | .derived formula =>
          match depth with
          | 0 => .error (.cycle name)
          | depth + 1 =>
            match (Formula.consult (scope.valueWithin depth) formula.dependencies).2 with
            | .error e => .error e
            | .ok slots => (formula.valueAt slots).mapError .formula

/-- The value of a parameter.  In a table without cycles formulas are nested less deep than it has nodes. -/
def value (scope : Scope) (name : String) : Except ModelError Float :=
  scope.valueWithin scope.table.size name

/-- How far a sum of weights may exceed one, since sums like 0.1 + 0.2 + 0.7 are rounded. -/
def weightTolerance : Float := 1e-12

def isWeight (value : Float) : Bool := decide (0 ≤ value) && decide (value ≤ 1)

/-- The weights of the branches in order, and their sum from the left onto `total`. -/
def explicitWeights (scope : Scope) (total : Float) : List Branch → Except ModelError (List Float × Float)
  | [] => .ok ([], total)
  | branch :: rest =>
    match scope.value branch.weight with
    | .error e => .error e
    | .ok w =>
      if isWeight w then
        match explicitWeights scope (total + w) rest with
        | .error e => .error e
        | .ok (weights, total) => .ok (w :: weights, total)
      else .error (.composition (.weightOutside branch.weight w))

def remainderWeight (total : Float) : Float := Formula.Builtin.greater (1 - total) 0

/-- The weights of the branches, and the weight that they leave. -/
def mixtureWeights (scope : Scope) (branches : List Branch) : Except ModelError (List Float) :=
  match scope.explicitWeights 0 branches with
  | .error e => .error e
  | .ok (weights, total) =>
    if 1 + weightTolerance < total then .error (.composition (.weightsExceed total))
    else .ok (weights ++ [remainderWeight total])

end Scope

def Table.value (table : Table) (name : String) : Except ModelError Float := Scope.value ⟨table, []⟩ name

end DensityGraph
