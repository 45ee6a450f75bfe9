import DensityGraph.Decimal.Notation

/-! # JSON values

A value as a document writes it: whole numbers stay exact, and the fields of an object keep their order and
their repetitions.  A document that stops being JSON is read up to that place, which `broken` marks, so that
a reader of the value meets faults in the order of the text.
-/

namespace DensityGraph

/-- A number of a document. -/
inductive Json.Number where
  /-- digits without a point or an exponent -/
  | whole (negative : Bool) (magnitude : Nat)
  /-- any other number; an infinite one is too large -/
  | real (value : Float)
  deriving DecidableEq, Repr

/-- A value of a document. -/
inductive Json where
  | null
  | bool (value : Bool)
  | number (value : Json.Number)
  | string (text : String)
  | array (items : List Json)
  | object (fields : List (String × Json))
  | broken
  deriving Repr

namespace Json

/-- The nearest floating-point number. -/
def Number.toFloat : Number → Float
  | whole negative magnitude =>
    let value : Float := Float.ofScientific magnitude false 0
    if negative then -value else value
  | real value => value

def ofFloat (value : Float) : Json := number (.real value)

def ofNat (value : Nat) : Json := number (.whole false value)

def ofStrings (texts : List String) : Json := array (texts.map string)

mutual

/-- The greatest number of arrays and objects around a part of the value, itself counted. -/
def nesting : Json → Nat
  | array items => 1 + nestingOfItems items
  | object fields => 1 + nestingOfFields fields
  | _ => 0

def nestingOfItems : List Json → Nat
  | [] => 0
  | item :: rest => max item.nesting (nestingOfItems rest)

def nestingOfFields : List (String × Json) → Nat
  | [] => 0
  | (_, value) :: rest => max value.nesting (nestingOfFields rest)

end

mutual

/-- The value is JSON throughout, and `number` holds of its numbers. -/
def sound (number? : Number → Bool) : Json → Bool
  | null | bool _ | string _ => true
  | number value => number? value
  | array items => soundItems number? items
  | object fields => soundFields number? fields
  | broken => false

def soundItems (number? : Number → Bool) : List Json → Bool
  | [] => true
  | item :: rest => item.sound number? && soundItems number? rest

def soundFields (number? : Number → Bool) : List (String × Json) → Bool
  | [] => true
  | (_, value) :: rest => value.sound number? && soundFields number? rest

end

/-- A number that has a floating-point value: one that is not too large. -/
def Number.inRange : Number → Bool
  | whole negative magnitude => (whole negative magnitude).toFloat.isFinite
  | real value => value.isFinite

end Json

end DensityGraph
