/-! # Declaration trees

What a declaration says, before any name in it is looked up.
-/

namespace DensityGraph

/-- The kinds of density that the declaration language has a keyword for. -/
inductive Declaration.Keyword where
  | gaussian
  | uniform
  | product
  | mixture
  deriving DecidableEq, Repr

namespace Declaration.Keyword

/-- The keyword of a text, in any case of ASCII letters. -/
def ofText? (text : String) : Option Keyword :=
  match String.ofList (text.toList.map Char.toLower) with
  | "gaussian" => some .gaussian
  | "uniform" => some .uniform
  | "prod" | "product" => some .product
  | "sum" => some .mixture
  | _ => none

def label : Keyword → String
  | gaussian => "Gaussian"
  | uniform => "Uniform"
  | product => "Product"
  | mixture => "Sum"

end Declaration.Keyword

mutual

/-- One declaration and the offset at which it begins. -/
inductive Declaration where
  /-- `name[value]`, `name[lower, upper]` or `name[value, lower, upper]` -/
  | free (name : String) (value lower upper : Float) (offset : Nat)
  /-- `expr::name('formula', dependencies)` -/
  | derived (name : String) (formula : String) (dependencies : List Argument) (offset : Nat)
  /-- `Keyword::name(arguments)` -/
  | density (keyword : Declaration.Keyword) (name : String) (arguments : List Argument) (offset : Nat)

/-- An argument of a declaration. -/
inductive Argument where
  /-- the name of a declared node -/
  | reference (name : String) (offset : Nat)
  /-- a number, which becomes a constant named by its text -/
  | constant (value : Float) (text : String)
  /-- a declaration in the place of its name -/
  | nested (declaration : Declaration)
  /-- `density|name` -/
  | conditioned (density : Argument) (given : String) (offset : Nat)
  /-- `weight*density` -/
  | weighted (weight density : Argument) (offset : Nat)

end

def Declaration.name : Declaration → String
  | free name .. | derived name .. | density _ name .. => name

def Declaration.offset : Declaration → Nat
  | free _ _ _ _ offset | derived _ _ _ offset | density _ _ _ offset => offset

def Declaration.arguments : Declaration → List Argument
  | free .. => []
  | derived _ _ dependencies _ => dependencies
  | density _ _ arguments _ => arguments

/-- The place that messages give for an argument; a constant has none of its own. -/
def Argument.offset : Argument → Nat
  | reference _ offset | conditioned _ _ offset | weighted _ _ offset => offset
  | constant .. => 0
  | nested declaration => declaration.offset

end DensityGraph
