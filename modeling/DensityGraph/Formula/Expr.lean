/-! # Expressions

Arithmetic over the values of numbered slots.
-/

namespace DensityGraph.Formula

/-- A binary operation. -/
inductive Operator where
  | add
  | sub
  | mul
  | div
  | pow
  deriving DecidableEq, Repr

def Operator.symbol : Operator → Char
  | .add => '+'
  | .sub => '-'
  | .mul => '*'
  | .div => '/'
  | .pow => '^'

def Operator.apply : Operator → Float → Float → Float
  | .add, a, b => a + b
  | .sub, a, b => a - b
  | .mul, a, b => a * b
  | .div, a, b => a / b
  | .pow, a, b => a.pow b

/-- A function that formulas can call. -/
inductive Builtin where
  | sqrt
  | exp
  | log
  | abs
  | sin
  | cos
  | pow
  | min
  | max
  deriving DecidableEq, Repr

namespace Builtin

def ofName? : String → Option Builtin
  | "sqrt" => some .sqrt
  | "exp" => some .exp
  | "log" => some .log
  | "abs" => some .abs
  | "sin" => some .sin
  | "cos" => some .cos
  | "pow" => some .pow
  | "min" => some .min
  | "max" => some .max
  | _ => none

def arity : Builtin → Nat
  | .pow | .min | .max => 2
  | _ => 1

/-- The smaller of two numbers, the first of two equal ones; an argument that is no number is ignored. -/
def lesser (a b : Float) : Float := if a.isNaN || b < a then b else a

/-- The greater of two numbers, the first of two equal ones; an argument that is no number is ignored. -/
def greater (a b : Float) : Float := if a.isNaN || a < b then b else a

/-- The value of a function, if it is given as many arguments as it takes. -/
def valueAt? : Builtin → List Float → Option Float
  | .sqrt, [a] => some a.sqrt
  | .exp, [a] => some a.exp
  | .log, [a] => some a.log
  | .abs, [a] => some a.abs
  | .sin, [a] => some a.sin
  | .cos, [a] => some a.cos
  | .pow, [a, b] => some (a.pow b)
  | .min, [a, b] => some (lesser a b)
  | .max, [a, b] => some (greater a b)
  | _, _ => none

end Builtin

/-- An expression over numbered slots. -/
inductive Expr where
  | number (value : Float)
  | slot (index : Nat)
  | negate (operand : Expr)
  | binary (operator : Operator) (left right : Expr)
  | call (function : Builtin) (arguments : List Expr)
  deriving Repr, BEq

namespace Expr

mutual

/-- The value of an expression, unless it uses a slot or an argument that is not there. -/
def eval? (slots : List Float) : Expr → Option Float
  | number value => some value
  | slot index => slots[index]?
  | negate operand => (operand.eval? slots).map fun a => -a
  | binary operator left right =>
    match left.eval? slots, right.eval? slots with
    | some a, some b => some (operator.apply a b)
    | _, _ => none
  | call function arguments => (evalAll? slots arguments).bind function.valueAt?

/-- The values of all arguments, in order. -/
def evalAll? (slots : List Float) : List Expr → Option (List Float)
  | [] => some []
  | argument :: rest =>
    match argument.eval? slots, evalAll? slots rest with
    | some a, some values => some (a :: values)
    | _, _ => none

end

mutual

/-- Every slot is one of the first `available`, and every call has as many arguments as its function takes. -/
def WellScoped (available : Nat) : Expr → Prop
  | number _ => True
  | slot index => index < available
  | negate operand => operand.WellScoped available
  | binary _ left right => left.WellScoped available ∧ right.WellScoped available
  | call function arguments => arguments.length = function.arity ∧ AllWellScoped available arguments

def AllWellScoped (available : Nat) : List Expr → Prop
  | [] => True
  | argument :: rest => argument.WellScoped available ∧ AllWellScoped available rest

end

end Expr

end DensityGraph.Formula
