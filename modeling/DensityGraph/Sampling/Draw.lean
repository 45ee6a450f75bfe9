import DensityGraph.Scope
import DensityGraph.Random.Distribution

/-! # Drawing one observation

A density is drawn part by part in the order of its declaration.  The values drawn so far stand in front of
the table, so that what is computed from a drawn parameter is computed at its drawn value.
-/

namespace DensityGraph.Sampling

open DensityGraph.Random (Stream)

/-- Why drawing stopped. -/
inductive Stop where
  /-- a rule of the model is broken -/
  | error (error : ModelError)
  /-- the stream of random words is used up -/
  | exhausted
  /-- a length is out of range: that of some bounds for a number, or that of a list for the memory -/
  | rangeOverflow
  deriving DecidableEq, Repr

/-- The values drawn so far, the last one first, and the stream behind them. -/
structure State where
  drawn : Overrides
  stream : Stream
  deriving DecidableEq

/-- Work on the drawn values that may stop. -/
abbrev Draw := StateT State (Except Stop)

namespace Draw

/-- The result of something that does not draw. -/
def lift {α : Type} (result : Except ModelError α) : Draw α := fun state =>
  match result with
  | .ok a => .ok (a, state)
  | .error e => .error (.error e)

/-- A number taken from the stream. -/
def number (take : Stream → Option (Float × Stream)) : Draw Float := fun state =>
  match take state.stream with
  | some (value, rest) => .ok (value, { state with stream := rest })
  | none => .error .exhausted

def keep (name : String) (value : Float) : Draw Unit := fun state =>
  .ok ((), { state with drawn := (name, value) :: state.drawn })

/-- The value of a parameter in front of the drawn values. -/
def value (table : Table) (name : String) : Draw Float := fun state =>
  lift (Scope.value ⟨table, state.drawn⟩ name) state

def bounds (table : Table) (name : String) : Except ModelError Bounds :=
  match table.parameter name with
  | .error e => .error e
  | .ok p =>
    match p.bounds? with
    | some bounds => .ok bounds
    | none => .error (.sampling (.notFree name))

/-- The first of some normal numbers that lies within the bounds, if one of the attempts succeeds. -/
def truncated (bounds : Bounds) (mean width : Float) : (attempts : Nat) → Draw (Option Float)
  | 0 => return none
  | attempts + 1 => do
    let z ← number Stream.normal?
    let candidate := mean + width * z
    if bounds.contains candidate then return some candidate
    else truncated bounds mean width attempts

/-- Draws the parameter of a normal density within its bounds. -/
def gaussian (table : Table) (attempts : Nat) (owner x mean sigma : String) : Draw Unit := do
  let m ← value table mean
  let width ← value table sigma
  if width ≤ 0 then
    throw (.error (.sampling (.width owner sigma width)))
  let bounds ← lift (bounds table x)
  if bounds.isDegenerate then keep x bounds.lower
  else
    match ← truncated bounds m width attempts with
    | some drawn => keep x drawn
    | none =>
      throw (.error (.sampling (.truncated owner x bounds.lower bounds.upper attempts m width)))

/-- Draws a parameter evenly within its bounds. -/
def even (table : Table) (name : String) : Draw Unit := do
  let bounds ← lift (bounds table name)
  if bounds.lower < bounds.upper then
    let scale := bounds.upper - bounds.lower
    if !scale.isFinite then
      throw .rangeOverflow
    let drawn ← number (Stream.range? bounds.lower bounds.upper scale)
    keep name drawn
  else keep name bounds.lower

/-- The branch whose share of the numbers from zero to one holds `u`: the shares lie side by side from
`start` on, and the remainder has the rest. -/
def choose (u : Float) (start : Float) (remainder : String) : List (Branch × Float) → String
  | [] => remainder
  | (branch, weight) :: rest =>
    if u < start + weight then branch.density else choose u (start + weight) remainder rest

/-- Draws a density by its kind; `part` draws the densities that it is made of. -/
def byKind (table : Table) (attempts : Nat) (part : String → Draw Unit) (name : String) :
    Density.Kind → Draw Unit
  | .gaussian x mean sigma => gaussian table attempts name x mean sigma
  | .uniform parameters => parameters.forM (even table)
  | .product factors => factors.forM part
  | .mixture branches remainder => do
    let weights ← lift (Scope.mixtureWeights ⟨table, (← get).drawn⟩ branches)
    let u ← number Stream.unit?
    part (choose u 0 remainder (branches.zip weights))
  | .conditionalJoint _ marginal conditionals => do
    part marginal
    conditionals.forM part

/-- Draws a density that is the outermost of at most `depth` nested ones. -/
def densityWithin (table : Table) (attempts : Nat) : (depth : Nat) → String → Draw Unit
  | depth, name => do
    let d ← lift (table.density name)
    match depth with
    | 0 => throw (.error (.cycle name))
    | depth + 1 => byKind table attempts (densityWithin table attempts depth) name d.kind

/-- Draws a density.  In a table without cycles no more densities are nested than it has nodes. -/
def density (table : Table) (attempts : Nat) (name : String) : Draw Unit :=
  densityWithin table attempts table.size name

end Draw

end DensityGraph.Sampling
