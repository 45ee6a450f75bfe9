import DensityGraph.Random.Layers
import DensityGraph.Random.Stream

/-! # Random numbers from random words

Each function takes as many words from a stream as it needs and gives the stream after them.  `none` says
that the stream was used up.
-/

namespace DensityGraph.Random

/-- `2 ^ -53`. -/
def halfUnit : Float := Float.ofBits 0x3ca0000000000000

/-- A number from zero up to one in steps of `2 ^ -53`. -/
def unitOf (word : UInt64) : Float := (word >>> 11).toFloat * halfUnit

/-- A number from one up to two in steps of `2 ^ -52`. -/
def oneToTwo (word : UInt64) : Float := Float.ofBits ((word >>> 12) ||| 0x3ff0000000000000)

/-- A number strictly between zero and one. -/
def openUnitOf (word : UInt64) : Float := oneToTwo word - (1 - halfUnit)

/-- A number from minus one up to one. -/
def signedUnitOf (word : UInt64) : Float := Float.ofBits ((word >>> 12) ||| 0x4000000000000000) - 3

namespace Stream

def unit? (stream : Stream) : Option (Float × Stream) :=
  stream.next?.map fun (word, rest) => (unitOf word, rest)

/-- The value in a range that a word stands for; rounding can make it the upper end. -/
def rangeValue (lower scale : Float) (word : UInt64) : Float := (oneToTwo word - 1) * scale + lower

/-- A number from `lower` up to `upper`, the length of the range being `scale`.  Values that are rounded to
the upper end are drawn again. -/
def range? (lower upper scale : Float) (stream : Stream) : Option (Float × Stream) :=
  match _taken : stream.next? with
  | none => none
  | some (word, rest) =>
    let value := rangeValue lower scale word
    if value < upper then some (value, rest) else range? lower upper scale rest
termination_by stream.remaining
decreasing_by exact remaining_lt_of_next? _taken

/-- Where the tail of the normal density begins. -/
def tailStart : Float := Layers.rightEnd 1

/-- A number from the tail of the normal density, on the side of the sign of `u`. -/
def tail? (u : Float) (stream : Stream) : Option (Float × Stream) :=
  match _first : stream.next? with
  | none => none
  | some (a, next) =>
    match _second : next.next? with
    | none => none
    | some (b, rest) =>
      let x := (openUnitOf a).log / tailStart
      let y := (openUnitOf b).log
      if -2 * y < x * x then tail? u rest
      else some (if u < 0 then x - tailStart else tailStart - x, rest)
termination_by stream.remaining
decreasing_by exact Nat.lt_trans (remaining_lt_of_next? _second) (remaining_lt_of_next? _first)

/-- A number of the standard normal density: a point of a layer, which counts at once inside the layer above,
and otherwise if it lies under the density. -/
def normal? (stream : Stream) : Option (Float × Stream) :=
  match _first : stream.next? with
  | none => none
  | some (word, next) =>
    let layer := (word &&& 0xff).toNat
    let u := signedUnitOf word
    let x := u * Layers.rightEnd layer
    if x.abs < Layers.rightEnd (layer + 1) then some (x, next)
    else if layer = 0 then tail? u next
    else
      match _second : next.next? with
      | none => none
      | some (word, rest) =>
        let above := Layers.height (layer + 1)
        let y := above + (Layers.height layer - above) * unitOf word
        if y < (-x * x / 2).exp then some (x, rest) else normal? rest
termination_by stream.remaining
decreasing_by exact Nat.lt_trans (remaining_lt_of_next? _second) (remaining_lt_of_next? _first)

end Stream

end DensityGraph.Random
