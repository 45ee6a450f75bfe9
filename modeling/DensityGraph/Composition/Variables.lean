import DensityGraph.Table.Basic

/-! # The parameters that a density draws and reads

A density draws its variables, and those of its parts.  A parameter reads itself and all that its formula leads to.
Drawing from a density reads its shape parameters and weights, and what its parts read.
-/

namespace DensityGraph.Table

/-- Names without repetitions, in the order in which they first occur. -/
def unique (names : List String) : List String :=
  names.foldl (fun seen name => if seen.contains name then seen else seen ++ [name]) []

/-- The parameters drawn by a density whose parts are nested at most `depth` deep. -/
def variablesWithin (table : Table) : (depth : Nat) → String → Except ModelError (List String)
  | depth, name =>
    match table.density name with
    | .error e => .error e
    | .ok d =>
      match d.kind with
      | .gaussian x _ _ => .ok [x]
      | .uniform parameters => .ok (unique parameters)
      | _ =>
        match depth with
        | 0 => .error (.cycle name)
        | depth + 1 =>
          match d.densityRefs.mapM (table.variablesWithin depth) with
          | .error e => .error e
          | .ok lists => .ok (unique lists.flatten)

/-- The parameters that a density draws, in the order in which they first occur. -/
def generatedVariables (table : Table) (density : String) : Except ModelError (List String) :=
  table.variablesWithin table.size density

/-- `readsWithin` for formulas nested at most `depth` deep. -/
def parameterReadsWithin (table : Table) (target : String) : (depth : Nat) → String → Except ModelError Bool
  | depth, name =>
    if name = target then .ok true
    else
      match table.parameter name with
      | .error e => .error e
      | .ok p =>
        match p.dependencies, depth with
        | [], _ => .ok false
        | _ :: _, 0 => .error (.cycle name)
        | dependencies, depth + 1 => dependencies.anyM (table.parameterReadsWithin target depth)

/-- The value of a parameter depends on the target. -/
def parameterReads (table : Table) (name target : String) : Except ModelError Bool :=
  table.parameterReadsWithin target table.size name

/-- The parameters whose values shape the draws of a density by itself. -/
def inputs (d : Density) : List String :=
  match d.kind with
  | .gaussian _ mean sigma => [mean, sigma]
  | .mixture branches _ => branches.map (·.weight)
  | _ => []

/-- `densityReads` for parts nested at most `depth` deep. -/
def densityReadsWithin (table : Table) (target : String) : (depth : Nat) → String → Except ModelError Bool
  | depth, name =>
    match table.density name with
    | .error e => .error e
    | .ok d =>
      match (inputs d).anyM fun input => table.parameterReads input target with
      | .error e => .error e
      | .ok true => .ok true
      | .ok false =>
        match d.densityRefs, depth with
        | [], _ => .ok false
        | _ :: _, 0 => .error (.cycle name)
        | parts, depth + 1 => parts.anyM (table.densityReadsWithin target depth)

/-- Drawing from a density needs the value of the target. -/
def densityReads (table : Table) (name target : String) : Except ModelError Bool :=
  table.densityReadsWithin target table.size name

end DensityGraph.Table
