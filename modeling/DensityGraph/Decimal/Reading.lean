/-! # Number literals

A literal is an optional sign, digits with an optional point (one digit at least), and an optional
exponent; or a word for infinity or for no number, in any case of letters.  Its value is the nearest
floating-point number.
-/

namespace DensityGraph.Decimal

def isDigit (c : Char) : Bool := '0' ≤ c && c ≤ '9'

/-- The number that a list of digits spells after `start`. -/
def digitsValue (start : Nat) (digits : List Char) : Nat :=
  digits.foldl (fun n c => 10 * n + (c.toNat - '0'.toNat)) start

/-- A signed decimal `± significand * 10 ^ exponent`. -/
structure Literal where
  negative : Bool
  significand : Nat
  exponent : Int
  deriving DecidableEq, Repr

/-- The nearest floating-point number.  Exponents far outside the range need no arithmetic. -/
def Literal.toFloat (l : Literal) : Float :=
  let magnitude : Float :=
    if l.significand = 0 then 0
    else if 400 < l.exponent then Float.ofBits 0x7ff0000000000000
    else if l.exponent + (Nat.log2 l.significand / 3 + 1 : Nat) < -400 then 0
    else Float.ofScientific l.significand (decide (l.exponent < 0)) l.exponent.natAbs
  if l.negative then -magnitude else magnitude

/-- A sign, if there is one: whether it is a minus, and what follows it. -/
def takeSign : List Char → Bool × List Char
  | '-' :: rest => (true, rest)
  | '+' :: rest => (false, rest)
  | text => (false, text)

/-- An exponent mark with its sign and digits, which must be all of the text. -/
def exponentOf : List Char → Option Int
  | [] => some 0
  | mark :: rest =>
    if mark = 'e' || mark = 'E' then
      let (negative, digits) := takeSign rest
      if digits.isEmpty || !digits.all isDigit then none
      else
        let size : Int := digitsValue 0 digits
        some (if negative then -size else size)
    else none

/-- Digits with an optional point and exponent; one digit at least stands before the exponent. -/
def unsignedLiteral (negative : Bool) (text : List Char) : Option Literal :=
  let whole := text.takeWhile isDigit
  let rest := text.dropWhile isDigit
  let (fraction, rest) := match rest with
    | '.' :: rest => (rest.takeWhile isDigit, rest.dropWhile isDigit)
    | rest => ([], rest)
  if whole.isEmpty && fraction.isEmpty then none
  else (exponentOf rest).map fun exponent =>
    ⟨negative, digitsValue (digitsValue 0 whole) fraction, exponent - fraction.length⟩

def readFloat? (text : List Char) : Option Float :=
  let (negative, rest) := takeSign text
  let word := String.ofList (rest.map Char.toLower)
  if word = "inf" || word = "infinity" then
    some (Float.ofBits (if negative then 0xfff0000000000000 else 0x7ff0000000000000))
  else if word = "nan" then some (Float.ofBits 0x7ff8000000000000)
  else (unsignedLiteral negative rest).map Literal.toFloat

def readFinite? (text : List Char) : Option Float :=
  (readFloat? text).filter Float.isFinite

end DensityGraph.Decimal
