import DensityGraph.Decimal.Reading
import DensityGraph.Formula.Token
import DensityGraph.Text

/-! # Reading the tokens of a formula

Every lexeme is made of one-byte characters, so characters and bytes count alike up to the first
character that is refused.
-/

namespace DensityGraph.Formula

open DensityGraph.Decimal (isDigit)
open DensityGraph.Text (Placed Tokens)

namespace Lexer

def isLetter (c : Char) : Bool := ('a' ≤ c && c ≤ 'z') || ('A' ≤ c && c ≤ 'Z')

def beginsName (c : Char) : Bool := isLetter c || c == '_'

def continuesName (c : Char) : Bool := isLetter c || isDigit c || c == '_'

/-- The first byte of a character, read as a character of its own. -/
def leadingByte (c : Char) : Char :=
  let n := c.toNat
  if n < 0x80 then c
  else if n < 0x800 then Char.ofNat (0xc0 + n / 0x40)
  else if n < 0x10000 then Char.ofNat (0xe0 + n / 0x1000)
  else Char.ofNat (0xf0 + n / 0x40000)

/-- An exponent mark, sign and digits at the front of a text, if they are all there. -/
def exponentText : List Char → List Char
  | mark :: rest =>
    if mark = 'e' || mark = 'E' then
      let sign := match rest with
        | c :: _ => if c = '+' || c = '-' then [c] else []
        | [] => []
      let digits := (rest.drop sign.length).takeWhile isDigit
      if digits.isEmpty then [] else mark :: sign ++ digits
    else []
  | [] => []

/-- The longest number at the front of a text: digits, an optional point with digits, an optional exponent. -/
def numberText (text : List Char) : List Char :=
  let whole := text.takeWhile isDigit
  let rest := text.drop whole.length
  let fraction := match rest with
    | '.' :: more => '.' :: more.takeWhile isDigit
    | _ => []
  whole ++ fraction ++ exponentText (rest.drop fraction.length)

/-- The greatest index that a positional reference can have. -/
def maxIndex : Nat := 0xFFFFFFFFFFFFFFFF

def operatorOf? : Char → Option Operator
  | '+' => some .add
  | '-' => some .sub
  | '*' => some .mul
  | '/' => some .div
  | '^' => some .pow
  | _ => none

/-- The lexeme at the front of a text: its token, none for a blank, and how many characters after the first
belong to it. -/
def lexeme (offset : Nat) (c : Char) (rest : List Char) : Except Fault (Option Token × Nat) :=
  if c = ' ' || c = '\t' || c = '\n' || c = '\r' then .ok (none, 0)
  else match operatorOf? c with
  | some op => .ok (some (.operator op), 0)
  | none =>
    if c = '(' then .ok (some .leftParen, 0)
    else if c = ')' then .ok (some .rightParen, 0)
    else if c = ',' then .ok (some .comma, 0)
    else if c = '@' then
      let digits := rest.takeWhile isDigit
      let index := Decimal.digitsValue 0 digits
      if digits.isEmpty || maxIndex < index then .error (.malformed offset .missingDigits)
      else .ok (some (.positional index), digits.length)
    else if isDigit c || c = '.' then
      let text := numberText (c :: rest)
      match Decimal.readFloat? text with
      | some value => .ok (some (.number value), text.length - 1)
      | none => .error (.malformed offset (.invalidNumber (String.ofList text)))
    else if beginsName c then
      let more := rest.takeWhile continuesName
      .ok (some (.identifier (String.ofList (c :: more))), more.length)
    else .error (.malformed offset (.unexpectedCharacter (leadingByte c)))

/-- The tokens of a text that begins at `offset`. -/
def run (offset : Nat) : List Char → Except Fault (List (Placed Token))
  | [] => .ok []
  | c :: rest =>
    match lexeme offset c rest with
    | .error fault => .error fault
    | .ok (token?, more) =>
      match run (offset + 1 + more) (rest.drop more) with
      | .error fault => .error fault
      | .ok tokens => .ok (match token? with
        | none => tokens
        | some token => ⟨token, offset⟩ :: tokens)
termination_by text => text.length
decreasing_by simp only [List.length_cons, List.length_drop]; omega

end Lexer

def tokenize (source : String) : Except Fault (Tokens Token) :=
  (Lexer.run 0 source.toList).map fun items => ⟨items, source.utf8ByteSize⟩

end DensityGraph.Formula
