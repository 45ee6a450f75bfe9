import DensityGraph.Json.Decode
import DensityGraph.Name

/-! # Canonical values

A value with the keys of its objects in order, of one key the last, and with whole numbers of 64 bits; larger ones
and a negative zero are floating-point numbers.
-/

namespace DensityGraph.Json

/-- A number as it is kept. -/
def Number.canonical : Number → Number
  | .whole negative magnitude =>
    let fits := if negative then decide (0 < magnitude) && decide (magnitude ≤ 0x8000000000000000)
      else decide (magnitude < 0x10000000000000000)
    if fits then .whole negative magnitude else .real (Number.whole negative magnitude).toFloat
  | .real value => .real value

mutual

/-- The value as it is kept. -/
def canonical : Json → Json
  | number value => number value.canonical
  | array items => array (canonicalItems items)
  | object fields => object (NameMap.ofList (canonicalFields fields)).entries
  | null => null
  | bool value => bool value
  | string text => string text
  | broken => broken

def canonicalItems : List Json → List Json
  | [] => []
  | item :: rest => item.canonical :: canonicalItems rest

/-- The fields as they are kept, in their own order. -/
def canonicalFields : List (String × Json) → List (String × Json)
  | [] => []
  | (key, value) :: rest => (key, value.canonical) :: canonicalFields rest

end

namespace Decode

/-- Any value, which must not be nested too deep. -/
def any : Decoder Json := fun value => if isWhole 0 value then .ok value.canonical else .error .form

/-- A natural number below a limit. -/
def below (limit : Nat) : Decoder Nat
  | .number (.whole false n) => if n < limit then .ok n else .error .form
  | _ => .error .form

end Decode

end DensityGraph.Json
