import DensityGraph.Json.Decode
import DensityGraph.Table.Order

/-! # Models in documents

Parameters, densities and tables as JSON values.  A formula is stored as its text and compiled again when it
is read; a table is stored as the list of its nodes and checked again.
-/

namespace DensityGraph

open Json (Decoder Refusal)
open Json.Decode (required record tagged wordOf? wordOrPlaceOf?)

def Bounds.toJson (bounds : Bounds) : Json :=
  .object [("lower", .ofFloat bounds.lower), ("upper", .ofFloat bounds.upper)]

/-- Bounds from a value; whether they are in order is not looked at. -/
def Bounds.ofJson : Decoder Bounds := fun value => do
  let (lower, upper) ← record ["lower", "upper"] (fun (lower, upper) key value => do
    match key with
    | "lower" => return (some (← Json.Decode.float value), upper)
    | _ => return (lower, some (← Json.Decode.float value))) (none, none) value
  return ⟨← required lower, ← required upper⟩

def Formula.toJson (f : Formula) : Json :=
  .object [("source", .string f.source), ("dependencies", .ofStrings f.dependencies)]

/-- A formula from a value, compiled. -/
def Formula.ofJson : Decoder Formula := fun value => do
  let (source, dependencies) ← record ["source", "dependencies"]
    (fun (source, dependencies) key value => do
      match key with
      | "source" => return (some (← Json.Decode.string value), dependencies)
      | _ => return (source, some (← Json.Decode.list Json.Decode.string value))) (none, none) value
  let source ← required source
  let dependencies ← required dependencies
  (Formula.compile source dependencies).mapError fun e => .rule e.message

def Parameter.Kind.toJson : Parameter.Kind → Json
  | .free value bounds =>
    .object [("kind", .string "free"), ("value", .ofFloat value), ("bounds", bounds.toJson)]
  | .derived formula => .object [("kind", .string "derived"), ("formula", formula.toJson)]

def Parameter.Kind.freeOfJson : Decoder Parameter.Kind := fun value => do
  let (held, bounds) ← record ["value", "bounds"] (fun (held, bounds) key value => do
    match key with
    | "value" => return (some (← Json.Decode.float value), bounds)
    | _ => return (held, some (← Bounds.ofJson value))) (none, none) value
  return .free (← required held) (← required bounds)

def Parameter.Kind.derivedOfJson : Decoder Parameter.Kind := fun value => do
  let formula ← record ["formula"] (fun _ _ value => do return some (← Formula.ofJson value)) none value
  return .derived (← required formula)

def Parameter.Kind.ofJson : Decoder Parameter.Kind := fun value => do
  let (word, rest) ← tagged "kind" (wordOrPlaceOf? ["free", "derived"]) value
  match word with
  | "free" => freeOfJson rest
  | _ => derivedOfJson rest

/-- A name and something of a given kind under that name. -/
def namedOfJson {α β : Type} (kind : Decoder α) (make : String → α → β) : Decoder β := fun value => do
  let (name, held) ← record ["name", "kind"] (fun (name, held) key value => do
    match key with
    | "name" => return (some (← Json.Decode.string value), held)
    | _ => return (name, some (← kind value))) (none, none) value
  return make (← required name) (← required held)

def Parameter.fields (p : Parameter) : List (String × Json) :=
  [("name", .string p.name), ("kind", p.kind.toJson)]

def Parameter.ofJson : Decoder Parameter := namedOfJson Parameter.Kind.ofJson Parameter.mk

def Branch.toJson (branch : Branch) : Json :=
  .object [("weight", .string branch.weight), ("pdf", .string branch.density)]

def Branch.ofJson : Decoder Branch := fun value => do
  let (weight, density) ← record ["weight", "pdf"] (fun (weight, density) key value => do
    match key with
    | "weight" => return (some (← Json.Decode.string value), density)
    | _ => return (weight, some (← Json.Decode.string value))) (none, none) value
  return ⟨← required weight, ← required density⟩

def Density.Kind.toJson : Density.Kind → Json
  | .gaussian x mean sigma =>
    .object [("kind", .string "gaussian"), ("x", .string x), ("mean", .string mean), ("sigma", .string sigma)]
  | .uniform parameters => .object [("kind", .string "uniform"), ("variables", .ofStrings parameters)]
  | .product factors => .object [("kind", .string "product"), ("factors", .ofStrings factors)]
  | .mixture branches remainder =>
    .object [("kind", .string "sum"), ("branches", .array (branches.map Branch.toJson)),
      ("remainder", .string remainder)]
  | .conditionalJoint shared marginal conditionals =>
    .object [("kind", .string "conditional_joint"), ("shared", .string shared),
      ("marginal", .string marginal), ("conditionals", .ofStrings conditionals)]

def Density.Kind.gaussianOfJson : Decoder Density.Kind := fun value => do
  let (x, mean, sigma) ← record ["x", "mean", "sigma"] (fun (x, mean, sigma) key value => do
    let name ← Json.Decode.string value
    match key with
    | "x" => return (some name, mean, sigma)
    | "mean" => return (x, some name, sigma)
    | _ => return (x, mean, some name)) (none, none, none) value
  return .gaussian (← required x) (← required mean) (← required sigma)

/-- The one list of names that a density is made of. -/
def Density.Kind.namesOfJson (field : String) (make : List String → Density.Kind) :
    Decoder Density.Kind := fun value => do
  let names ← record [field]
    (fun _ _ value => do return some (← Json.Decode.list Json.Decode.string value)) none value
  return make (← required names)

def Density.Kind.mixtureOfJson : Decoder Density.Kind := fun value => do
  let (branches, remainder) ← record ["branches", "remainder"]
    (fun (branches, remainder) key value => do
      match key with
      | "branches" => return (some (← Json.Decode.list Branch.ofJson value), remainder)
      | _ => return (branches, some (← Json.Decode.string value))) (none, none) value
  return .mixture (← required branches) (← required remainder)

def Density.Kind.conditionalOfJson : Decoder Density.Kind := fun value => do
  let (shared, marginal, conditionals) ← record ["shared", "marginal", "conditionals"]
    (fun (shared, marginal, conditionals) key value => do
      match key with
      | "shared" => return (some (← Json.Decode.string value), marginal, conditionals)
      | "marginal" => return (shared, some (← Json.Decode.string value), conditionals)
      | _ => return (shared, marginal, some (← Json.Decode.list Json.Decode.string value)))
    (none, none, none) value
  return .conditionalJoint (← required shared) (← required marginal)
    (← required conditionals)

def Density.Kind.ofJson : Decoder Density.Kind := fun value => do
  let (word, rest) ←
    tagged "kind" (wordOrPlaceOf? ["gaussian", "uniform", "product", "sum", "conditional_joint"]) value
  match word with
  | "gaussian" => gaussianOfJson rest
  | "uniform" => namesOfJson "variables" .uniform rest
  | "product" => namesOfJson "factors" .product rest
  | "sum" => mixtureOfJson rest
  | _ => conditionalOfJson rest

def Density.fields (d : Density) : List (String × Json) := [("name", .string d.name), ("kind", d.kind.toJson)]

def Density.ofJson : Decoder Density := namedOfJson Density.Kind.ofJson Density.mk

def Node.toJson : Node → Json
  | .parameter p => .object (("node", .string "parameter") :: p.fields)
  | .density d => .object (("node", .string "pdf") :: d.fields)

/-- A node from a value that stands inside `depth` others.  A node must be JSON throughout before anything
in it is looked at. -/
def Node.ofJson (depth : Nat) : Decoder Node := fun value => do
  if !Json.isWhole depth value then
    throw .form
  let (word, rest) ← tagged "node" (wordOf? ["parameter", "pdf"]) value
  match word with
  | "parameter" => return .parameter (← Parameter.ofJson rest)
  | _ => return .density (← Density.ofJson rest)

def Table.toJson (table : Table) : Json := .array (table.nodes.map Node.toJson)

/-- A table from a value that stands inside `depth` others. -/
def Table.ofJson (depth : Nat) : Decoder Table := fun value => do
  let nodes ← Json.Decode.list (Node.ofJson (depth + 1)) value
  (Table.ofNodes nodes).mapError fun e => .rule e.message

end DensityGraph
