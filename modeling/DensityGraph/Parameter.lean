import DensityGraph.Error
import DensityGraph.Formula.Basic

/-! # Parameters

The numbers of a model.  A free parameter holds a value within bounds, which are a closed interval; a derived one
is computed by a formula over other parameters.
-/

namespace DensityGraph

/-- Two inclusive bounds. -/
structure Bounds where
  lower : Float
  upper : Float
  deriving DecidableEq, BEq, Repr

namespace Bounds

/-- Both bounds are finite and the lower one does not exceed the upper one. -/
def valid (bounds : Bounds) : Bool :=
  bounds.lower.isFinite && bounds.upper.isFinite && decide (bounds.lower ≤ bounds.upper)

def contains (bounds : Bounds) (value : Float) : Bool :=
  decide (bounds.lower ≤ value) && decide (value ≤ bounds.upper)

/-- The nearest value within the bounds. -/
def clamp (bounds : Bounds) (value : Float) : Float :=
  let raised := if value < bounds.lower then bounds.lower else value
  if bounds.upper < raised then bounds.upper else raised

def midpoint (bounds : Bounds) : Float := 0.5 * (bounds.lower + bounds.upper)

/-- The bounds leave room for one value only. -/
def isDegenerate (bounds : Bounds) : Bool := bounds.lower == bounds.upper

end Bounds

/-- What a parameter holds. -/
inductive Parameter.Kind where
  | free (value : Float) (bounds : Bounds)
  | derived (formula : Formula)
  deriving BEq, Repr

structure Parameter where
  name : String
  kind : Parameter.Kind
  deriving BEq, Repr

namespace Parameter

/-- The bounds of a name, which must be finite and in order. -/
def checkedBounds (name : String) (lower upper : Float) : Except ModelError Bounds :=
  let bounds : Bounds := ⟨lower, upper⟩
  if bounds.valid then .ok bounds else .error (.invalidRange name lower upper)

/-- A value that a free parameter with the given bounds can hold. -/
def admits (bounds : Bounds) (value : Float) : Bool := value.isFinite && bounds.contains value

/-- A free parameter, whose value lies within its bounds. -/
def free (name : String) (value lower upper : Float) : Except ModelError Parameter :=
  match checkedBounds name lower upper with
  | .error e => .error e
  | .ok bounds =>
    if admits bounds value then .ok ⟨name, .free value bounds⟩
    else .error (.outOfBounds name value lower upper)

/-- A free parameter that can hold one value only. -/
def constant (name : String) (value : Float) : Except ModelError Parameter := free name value value value

def derived (name : String) (formula : Formula) : Parameter := ⟨name, .derived formula⟩

def isFree (p : Parameter) : Bool :=
  match p.kind with
  | .free .. => true
  | .derived _ => false

def value? (p : Parameter) : Option Float :=
  match p.kind with
  | .free value _ => some value
  | .derived _ => none

def bounds? (p : Parameter) : Option Bounds :=
  match p.kind with
  | .free _ bounds => some bounds
  | .derived _ => none

def formula? (p : Parameter) : Option Formula :=
  match p.kind with
  | .free .. => none
  | .derived formula => some formula

/-- The names that a parameter is computed from. -/
def dependencies (p : Parameter) : List String :=
  match p.kind with
  | .free .. => []
  | .derived formula => formula.dependencies

/-- The parameter with another value. -/
def setValue (p : Parameter) (value : Float) : Except ModelError Parameter :=
  match p.kind with
  | .free _ bounds =>
    if admits bounds value then .ok ⟨p.name, .free value bounds⟩
    else .error (.outOfBounds p.name value bounds.lower bounds.upper)
  | .derived _ => .error (.readOnly p.name)

/-- The parameter with other bounds, its value moved into them. -/
def setRange (p : Parameter) (lower upper : Float) : Except ModelError Parameter :=
  match checkedBounds p.name lower upper with
  | .error e => .error e
  | .ok bounds =>
    match p.kind with
    | .free value _ => .ok ⟨p.name, .free (bounds.clamp value) bounds⟩
    | .derived _ => .error (.readOnly p.name)

end Parameter

end DensityGraph
