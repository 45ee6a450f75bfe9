import DensityGraph.Decimal.Shortest

/-! # Written numbers

How the digits of a number are laid out: with or without an exponent, with or without `.0`.
-/

namespace DensityGraph.Decimal

structure Style where
  /-- The exponents of the first digit that are written without an exponent; none is all of them. -/
  positional : Option (Int × Int)
  /-- Whole numbers in positional form end in `.0`. -/
  pointZero : Bool
  /-- What stands in front of an exponent that is not negative. -/
  exponentSign : String
  tie : Tie

def zeros (n : Nat) : String := String.ofList (List.replicate n '0')

/-- Digits in front of and behind the point. -/
def positionalText (style : Style) (d : Digits) : String :=
  let text := toString d.significand
  let fraction := (-d.exponent).toNat
  if 0 ≤ d.exponent then
    text ++ zeros d.exponent.toNat ++ (if style.pointZero then ".0" else "")
  else if fraction < text.length then
    String.ofList (text.toList.take (text.length - fraction)) ++ "." ++
      String.ofList (text.toList.drop (text.length - fraction))
  else "0." ++ zeros (fraction - text.length) ++ text

/-- One digit, a point, the other digits, and the exponent of the first digit. -/
def exponentText (style : Style) (d : Digits) (leading : Int) : String :=
  let digits := (toString d.significand).toList
  let rest := digits.drop 1
  String.ofList (digits.take 1) ++ (if rest.isEmpty then "" else "." ++ String.ofList rest) ++ "e" ++
    (if 0 ≤ leading then style.exponentSign ++ toString leading.toNat else "-" ++ toString (-leading).toNat)

/-- A magnitude in the given style. -/
def magnitudeText (style : Style) (d : Digits) : String :=
  let leading := d.exponent + (toString d.significand).length - 1
  match style.positional with
  | none => positionalText style d
  | some (first, last) =>
    if first ≤ leading && leading ≤ last then positionalText style d else exponentText style d leading

/-- A number in the given style; the numbers that are not finite are `NaN`, `inf` and `-inf`. -/
def text (style : Style) (x : Float) : String :=
  if x.isNaN then "NaN"
  else
    let sign := if isNegative x then "-" else ""
    if x.isInf then sign ++ "inf"
    else sign ++ magnitudeText style (shortest (Binary.ofFloat x) style.tie)

/-- Numbers in messages: never an exponent, and no point in a whole number. -/
def plain : Style := ⟨none, false, "", .up⟩

/-- Numbers in documents: a point or an exponent always, an exponent from `10 ^ 16` and below `10 ^ -5`. -/
def document : Style := ⟨some (-5, 15), true, "+", .toEven⟩

/-- Numbers as tokens of a formula: an exponent from `10 ^ 16` and below `10 ^ -4`. -/
def token : Style := ⟨some (-4, 15), true, "", .up⟩

end DensityGraph.Decimal
