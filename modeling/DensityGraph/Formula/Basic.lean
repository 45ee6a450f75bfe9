import DensityGraph.Formula.Parser
import DensityGraph.Text

/-! # Formulas

A formula is a text together with the names that it may use, compiled once.  Its value is computed from
the values of its dependencies each time it is asked for.
-/

namespace DensityGraph

/-- A compiled formula. -/
structure Formula where
  source : String
  dependencies : List String
  expr : Formula.Expr
  deriving Repr, BEq

namespace Formula

def compile (source : String) (dependencies : List String) : Except Error Formula :=
  if Text.allBlank source then .error .empty
  else
    match (tokenize source).bind (parse dependencies) with
    | .ok expr => .ok ⟨source, dependencies, expr⟩
    | .error fault => .error (.fault source fault)

/-- Looks names up in order until one fails: the names that were asked for, and the values or the error. -/
def consult {ε : Type} (lookup : String → Except ε Float) : List String → List String × Except ε (List Float)
  | [] => ([], .ok [])
  | name :: rest =>
    match lookup name with
    | .error e => ([name], .error e)
    | .ok value =>
      let (asked, values) := consult lookup rest
      (name :: asked, values.map (value :: ·))

/-- The value for given values of the dependencies, which must be finite. -/
def valueAt (f : Formula) (slots : List Float) : Except Error Float :=
  match f.expr.eval? slots with
  | some value => if value.isFinite then .ok value else .error (.nonFinite f.source)
  | none => .error (.nonFinite f.source)

end Formula

end DensityGraph
