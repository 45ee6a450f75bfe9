import DensityGraph.Declaration.Error
import DensityGraph.Formula.Lexer
import DensityGraph.Text

/-! # Reading the tokens of a declaration -/

namespace DensityGraph.Declaration

open DensityGraph.Decimal (isDigit)
open DensityGraph.Formula.Lexer (beginsName continuesName)
open DensityGraph.Text (Placed Tokens byteLength)

namespace Lexer

/-- The characters that are tokens by themselves. -/
def punctuation? : Char → Option Token
  | '(' => some .leftParen
  | ')' => some .rightParen
  | '[' => some .leftBracket
  | ']' => some .rightBracket
  | '\x7b' => some .leftBrace
  | '\x7d' => some .rightBrace
  | ',' => some .comma
  | '*' => some .star
  | '|' => some .bar
  | _ => none

def isSign (c : Char) : Bool := c == '+' || c == '-'

def isExponentMark (c : Char) : Bool := c == 'e' || c == 'E'

def beginsNumber (c : Char) : Bool := isDigit c || c == '.' || isSign c

/-- The characters that continue a number after `before`; a sign does so behind an exponent mark only. -/
def numberTail (before : Char) : List Char → List Char
  | [] => []
  | c :: rest =>
    if isDigit c || c == '.' || isExponentMark c || (isSign c && isExponentMark before) then
      c :: numberTail c rest
    else []

/-- The lexeme at the front of a text: its token, none for a blank, and how many characters after the first
belong to it. -/
def lexeme (offset : Nat) (c : Char) (rest : List Char) : Except Error (Option Token × Nat) :=
  if Text.isBlank c then .ok (none, 0)
  else match punctuation? c with
  | some token => .ok (some token, 0)
  | none =>
    if c = ':' then
      match rest with
      | [] => .error (.unexpectedEnd .colon)
      | next :: _ =>
        if next = ':' then .ok (some .doubleColon, 1) else .error (.unexpectedCharacter next (offset + 1))
    else if c = '\'' || c = '"' then
      let inside := rest.takeWhile (· != c)
      if inside.length < rest.length then .ok (some (.string (String.ofList inside)), inside.length + 1)
      else .error (.unterminatedString offset)
    else if beginsNumber c then
      let tail := numberTail c rest
      let text := String.ofList (c :: tail)
      match Decimal.readFinite? (c :: tail) with
      | some value => .ok (some (.number value text), tail.length)
      | none => .error (.invalidNumber text offset)
    else if beginsName c then
      let tail := rest.takeWhile continuesName
      .ok (some (.identifier (String.ofList (c :: tail))), tail.length)
    else .error (.unexpectedCharacter c offset)

/-- The tokens of a text that begins at `offset`. -/
def run (offset : Nat) : List Char → Except Error (List (Placed Token))
  | [] => .ok []
  | c :: rest =>
    match lexeme offset c rest with
    | .error e => .error e
    | .ok (token?, more) =>
      match run (offset + byteLength (c :: rest.take more)) (rest.drop more) with
      | .error e => .error e
      | .ok tokens => .ok (match token? with
        | none => tokens
        | some token => ⟨token, offset⟩ :: tokens)
termination_by text => text.length
decreasing_by simp only [List.length_cons, List.length_drop]; omega

end Lexer

def tokenize (text : String) : Except Error (Tokens Token) :=
  (Lexer.run 0 text.toList).map fun items => ⟨items, text.utf8ByteSize⟩

end DensityGraph.Declaration
