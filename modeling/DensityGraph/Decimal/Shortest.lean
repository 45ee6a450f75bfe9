/-! # The fewest digits that read back

A finite floating-point number that is not zero is `mantissa * 2 ^ exponent`.  The reals that round to it form an
interval around it, whose ends belong to it exactly when the mantissa is even.

For one digit, two digits and so on, the two neighbours of a number on the grid of that many digits
are tried.  The first grid that has a point in the rounding interval of the number wins, and of two
points the nearer.
-/

namespace DensityGraph.Decimal

/-- A magnitude `mantissa * 2 ^ exponent`. -/
structure Binary where
  mantissa : Nat
  exponent : Int
  deriving DecidableEq, Repr

namespace Binary

/-- The least exponent, which numbers near zero share. -/
def leastExponent : Int := -1074

/-- The magnitude of a finite number, zero included. -/
def ofFloat (x : Float) : Binary :=
  let bits : Nat := x.toBits.toNat
  let fraction : Nat := bits % 0x10000000000000
  let biased : Nat := bits / 0x10000000000000 % 0x800
  if biased = 0 then ⟨fraction, leastExponent⟩ else ⟨fraction + 0x10000000000000, (biased : Int) - 1075⟩

/-- The neighbour below lies at half the distance of the neighbour above. -/
def hasCloseBelow (b : Binary) : Bool :=
  b.mantissa == 0x10000000000000 && decide (leastExponent < b.exponent)

/-- An exact fraction with a positive denominator. -/
structure Ratio where
  num : Nat
  den : Nat
  deriving DecidableEq, Repr

/-- `n * 2 ^ e` as a fraction. -/
def scale (n : Nat) (e : Int) : Ratio :=
  if 0 ≤ e then ⟨n * Nat.pow 2 e.toNat, 1⟩ else ⟨n, Nat.pow 2 (-e).toNat⟩

/-- The magnitude in quarters of its last place, so that the interval has whole ends. -/
def quarters (b : Binary) : Nat := 4 * b.mantissa

/-- The lower end of the interval of reals that round to the number, in quarters. -/
def lowerQuarters (b : Binary) : Nat := if b.hasCloseBelow then b.quarters - 1 else b.quarters - 2

/-- The upper end of the interval of reals that round to the number, in quarters. -/
def upperQuarters (b : Binary) : Nat := b.quarters + 2

end Binary

def isNegative (x : Float) : Bool := x.toBits >>> 63 == 1

/-- A decimal magnitude `significand * 10 ^ exponent`. -/
structure Digits where
  significand : Nat
  exponent : Int
  deriving DecidableEq, Repr

/-- Which of two equally near decimals is written. -/
inductive Tie where
  | toEven
  | up
  deriving DecidableEq, Repr

namespace Shortest

/-- `num / den < significand * 10 ^ exponent`. -/
def ratioLess (num den significand : Nat) (exponent : Int) : Bool :=
  if 0 ≤ exponent then num < significand * Nat.pow 10 exponent.toNat * den
  else num * Nat.pow 10 (-exponent).toNat < significand * den

/-- The exponent of the first decimal digit of `num / den`, found near a guess from binary lengths. -/
def leadingExponent (num den : Nat) : Int :=
  let guess := (((Nat.log2 num : Int) - Nat.log2 den) * 30103) / 100000
  if !ratioLess num den 1 (guess + 1) then guess + 1
  else if !ratioLess num den 1 guess then guess
  else guess - 1

/-- Drops the zeros at the end, at most as many as the fuel says. -/
def dropZeros : Nat → Digits → Digits
  | 0, d => d
  | fuel + 1, d =>
    if d.significand % 10 = 0 then dropZeros fuel ⟨d.significand / 10, d.exponent + 1⟩ else d

/-- A point of a decimal grid compared with the value and its interval, all over one denominator. -/
structure Grid where
  /-- the value, its lower and its upper end, times the common denominator -/
  value : Nat
  lower : Nat
  upper : Nat
  /-- the distance of two neighbours of the grid, times the common denominator -/
  unit : Nat
  /-- the ends of the interval belong to it -/
  closed : Bool

/-- The grid of step `10 ^ exponent` around the number. -/
def Grid.around (b : Binary) (exponent : Int) : Grid :=
  let two := b.exponent - 2
  let twoUp := if 0 ≤ two then Nat.pow 2 two.toNat else 1
  let twoDown := if 0 ≤ two then 1 else Nat.pow 2 (-two).toNat
  let tenUp := if 0 ≤ exponent then Nat.pow 10 exponent.toNat else 1
  let tenDown := if 0 ≤ exponent then 1 else Nat.pow 10 (-exponent).toNat
  { value := b.quarters * twoUp * tenDown
    lower := b.lowerQuarters * twoUp * tenDown
    upper := b.upperQuarters * twoUp * tenDown
    unit := tenUp * twoDown
    closed := b.mantissa % 2 == 0 }

/-- The point `n` of the grid rounds to the number. -/
def Grid.reads (g : Grid) (n : Nat) : Bool :=
  let point := n * g.unit
  if g.closed then g.lower ≤ point && point ≤ g.upper else g.lower < point && point < g.upper

/-- The point of the grid that is written for the number, if one of the two neighbours reads back. -/
def Grid.choose? (g : Grid) (tie : Tie) : Option Nat :=
  let below := g.value / g.unit
  let above := below + 1
  match g.reads below, g.reads above with
  | false, false => none
  | true, false => some below
  | false, true => some above
  | true, true =>
    let toBelow := g.value - below * g.unit
    let toAbove := above * g.unit - g.value
    if toBelow < toAbove then some below
    else if toAbove < toBelow then some above
    else match tie with
      | .toEven => some (if below % 2 = 0 then below else above)
      | .up => some above

/-- Tries the grids of `digits`, `digits + 1` and so on up to seventeen digits. -/
def search (b : Binary) (tie : Tie) (leading : Int) : Nat → Nat → Digits
  | 0, digits => ⟨(Grid.around b (leading + 1 - digits)).value / (Grid.around b (leading + 1 - digits)).unit,
      leading + 1 - digits⟩
  | fuel + 1, digits =>
    match (Grid.around b (leading + 1 - digits)).choose? tie with
    | some n => ⟨n, leading + 1 - digits⟩
    | none => search b tie leading fuel (digits + 1)

end Shortest

/-- The shortest decimal that reads back as the magnitude; zero has no digits. -/
def shortest (b : Binary) (tie : Tie) : Digits :=
  if b.mantissa = 0 then ⟨0, 0⟩
  else
    let r := Binary.scale b.mantissa b.exponent
    Shortest.dropZeros 20 (Shortest.search b tie (Shortest.leadingExponent r.num r.den) 17 1)

end DensityGraph.Decimal
