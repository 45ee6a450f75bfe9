import DensityGraph.Parameter
import DensityGraph.Declaration.Lexer
import DensityGraph.Text

/-! # Reading a declaration

```text
declaration  := NAME '[' NUMBER (',' NUMBER){0,2} ']'
              | 'expr' '::' NAME '(' STRING (',' dependencies)? ')'
              | KEYWORD '::' NAME '(' argument (',' argument)* ')'
dependencies := '{' (argument (',' argument)*)? '}' | argument (',' argument)*
argument     := factor ('*' factor)?
factor       := primary ('|' NAME)?
primary      := NUMBER | NAME | declaration
```

No name is looked up here, so a malformed text is refused before any unknown name.
-/

namespace DensityGraph.Declaration

open DensityGraph.Text (Placed Tokens offsetOf)

namespace Parser

/-- Something read from the tokens of a declaration. -/
abbrev Parsed (α : Type) (bound : Nat) := Text.Parsed (Placed Token) α bound

/-- The tokens do not go on as they should. -/
def unexpected (expected : Expected) : List (Placed Token) → Error
  | [] => .unexpectedEnd expected
  | found :: _ => .unexpectedToken found.value expected found.offset

/-- A given token, which must come next. -/
def expect (token : Token) (tokens : List (Placed Token)) : Except Error (Parsed Unit tokens.length) :=
  match tokens with
  | [] => .error (unexpected (.token token) [])
  | found :: rest =>
    if found.value = token then .ok ⟨(), rest, by simp⟩
    else .error (unexpected (.token token) (found :: rest))

def identifier (expected : Expected) (tokens : List (Placed Token)) :
    Except Error (Parsed String tokens.length) :=
  match tokens with
  | ⟨.identifier name, _⟩ :: rest => .ok ⟨name, rest, by simp⟩
  | tokens => .error (unexpected expected tokens)

def number (tokens : List (Placed Token)) : Except Error (Parsed Float tokens.length) :=
  match tokens with
  | ⟨.number value _, _⟩ :: rest => .ok ⟨value, rest, by simp⟩
  | tokens => .error (unexpected .number tokens)

def quoted (tokens : List (Placed Token)) : Except Error (Parsed String tokens.length) :=
  match tokens with
  | ⟨.string text, _⟩ :: rest => .ok ⟨text, rest, by simp⟩
  | tokens => .error (unexpected .quotedFormula tokens)

/-- The numbers behind the first one. -/
def numbersTail (bound : Nat) (before : Parsed (List Float) bound) : Except Error (Parsed (List Float) bound) :=
  match h : before.rest with
  | ⟨.comma, _⟩ :: rest =>
    match number rest with
    | .error e => .error e
    | .ok next =>
      numbersTail bound ⟨before.value ++ [next.value], next.rest, by
        have := next.shorter; have := before.shorter; simp [h] at *; omega⟩
  | _ => .ok before
termination_by before.rest.length
decreasing_by have := next.shorter; simp [h]; omega

/-- The free parameter that a name and its numbers declare. -/
def freeOf (name : String) (offset : Nat) : List Float → Except Error Declaration
  | [value] => .ok (.free name value value value offset)
  | [lower, upper] => .ok (.free name (Bounds.midpoint ⟨lower, upper⟩) lower upper offset)
  | [value, lower, upper] => .ok (.free name value lower upper offset)
  | numbers => .error (.malformed (.valueCount name numbers.length) offset)

def free (name : String) (offset : Nat) (tokens : List (Placed Token)) :
    Except Error (Parsed Declaration tokens.length) :=
  match number tokens with
  | .error e => .error e
  | .ok first =>
    match numbersTail tokens.length (first.replace [first.value] (Nat.le_refl _)) with
    | .error e => .error e
    | .ok numbers =>
      match expect .rightBracket numbers.rest with
      | .error e => .error e
      | .ok close =>
        match freeOf name offset numbers.value with
        | .error e => .error e
        | .ok declaration => .ok (close.replace declaration (Nat.le_of_lt numbers.shorter))

/-- The keyword of derived parameters, in any case of ASCII letters. -/
def isFormulaKeyword (text : String) : Bool :=
  String.ofList (text.toList.map Char.toLower) == "expr"

mutual

/-- The rest of a declaration whose first name has been read, if it goes on as a declaration does. -/
def body (name : String) (offset : Nat) (tokens : List (Placed Token)) :
    Except Error (Option (Parsed Declaration tokens.length)) :=
  match tokens with
  | ⟨.leftBracket, _⟩ :: rest =>
    match free name offset rest with
    | .error e => .error e
    | .ok read => .ok (some (read.replace read.value (by simp)))
  | ⟨.doubleColon, _⟩ :: rest =>
    if isFormulaKeyword name then
      match derived offset rest with
      | .error e => .error e
      | .ok read => .ok (some (read.replace read.value (by simp)))
    else
      match Keyword.ofText? name with
      | none => .error (.unknownKeyword name offset)
      | some keyword =>
        match density keyword offset rest with
        | .error e => .error e
        | .ok read => .ok (some (read.replace read.value (by simp)))
  | _ => .ok none
termination_by 7 * tokens.length + 2

/-- A derived parameter behind `expr::`. -/
def derived (offset : Nat) (tokens : List (Placed Token)) : Except Error (Parsed Declaration tokens.length) :=
  match identifier .parameterName tokens with
  | .error e => .error e
  | .ok name =>
    match expect .leftParen name.rest with
    | .error e => .error e
    | .ok opened =>
      match quoted opened.rest with
      | .error e => .error e
      | .ok formula =>
        match dependencies formula.rest with
        | .error e => .error e
        | .ok deps =>
          match expect .rightParen deps.rest with
          | .error e => .error e
          | .ok close => .ok (close.replace (.derived name.value formula.value deps.value offset) (by
              have := name.shorter; have := opened.shorter; have := formula.shorter
              have := deps.shorter; omega))
termination_by 7 * tokens.length + 1
decreasing_by have := name.shorter; have := opened.shorter; have := formula.shorter; omega

/-- The dependencies of a formula, in braces or not, up to its closing parenthesis. -/
def dependencies (tokens : List (Placed Token)) :
    Except Error (Parsed (List Argument) (tokens.length + 1)) :=
  match tokens with
  | ⟨.comma, _⟩ :: ⟨.leftBrace, _⟩ :: ⟨.rightBrace, _⟩ :: rest => .ok ⟨[], rest, by simp; omega⟩
  | ⟨.comma, _⟩ :: ⟨.leftBrace, _⟩ :: rest =>
    match argumentList rest with
    | .error e => .error e
    | .ok read =>
      match expect .rightBrace read.rest with
      | .error e => .error e
      | .ok close => .ok (close.replace read.value (by have := read.shorter; simp; omega))
  | ⟨.comma, _⟩ :: rest =>
    match argumentList rest with
    | .error e => .error e
    | .ok read => .ok (read.replace read.value (by simp; omega))
  | tokens => .ok ⟨[], tokens, by simp⟩
termination_by 7 * tokens.length + 0

/-- A density behind its keyword and `::`. -/
def density (keyword : Keyword) (offset : Nat) (tokens : List (Placed Token)) :
    Except Error (Parsed Declaration tokens.length) :=
  match identifier .densityName tokens with
  | .error e => .error e
  | .ok name =>
    match expect .leftParen name.rest with
    | .error e => .error e
    | .ok opened =>
      match argumentList opened.rest with
      | .error e => .error e
      | .ok read =>
        match expect .rightParen read.rest with
        | .error e => .error e
        | .ok close => .ok (close.replace (.density keyword name.value read.value offset) (by
            have := name.shorter; have := opened.shorter; have := read.shorter; omega))
termination_by 7 * tokens.length + 1
decreasing_by have := name.shorter; have := opened.shorter; omega

/-- One or more arguments with commas between them. -/
def argumentList (tokens : List (Placed Token)) : Except Error (Parsed (List Argument) tokens.length) :=
  match argument tokens with
  | .error e => .error e
  | .ok first => argumentsTail tokens.length (first.replace [first.value] (Nat.le_refl _))
termination_by 7 * tokens.length + 6
decreasing_by
  · omega
  · have := first.shorter; simp only [Text.Parsed.replace]; omega

def argumentsTail (bound : Nat) (before : Parsed (List Argument) bound) :
    Except Error (Parsed (List Argument) bound) :=
  match h : before.rest with
  | ⟨.comma, _⟩ :: rest =>
    match argument rest with
    | .error e => .error e
    | .ok next =>
      argumentsTail bound ⟨before.value ++ [next.value], next.rest, by
        have := next.shorter; have := before.shorter; simp [h] at *; omega⟩
  | _ => .ok before
termination_by 7 * before.rest.length + 6
decreasing_by
  · simp only [h, List.length_cons]; omega
  · have := next.shorter; simp only [h, List.length_cons]; omega

/-- A factor, or two with a star between them. -/
def argument (tokens : List (Placed Token)) : Except Error (Parsed Argument tokens.length) :=
  match factor tokens with
  | .error e => .error e
  | .ok first =>
    match h : first.rest with
    | ⟨.star, _⟩ :: rest =>
      match factor rest with
      | .error e => .error e
      | .ok second => .ok (second.replace (.weighted first.value second.value (offsetOf 0 tokens)) (by
          have := first.shorter; simp [h] at *; omega))
    | _ => .ok first
termination_by 7 * tokens.length + 5
decreasing_by
  · omega
  · have := first.shorter; simp only [h, List.length_cons] at *; omega

/-- A primary, with the name that it is conditioned on if a bar follows. -/
def factor (tokens : List (Placed Token)) : Except Error (Parsed Argument tokens.length) :=
  match primary tokens with
  | .error e => .error e
  | .ok read =>
    match h : read.rest with
    | ⟨.bar, _⟩ :: rest =>
      match identifier .conditioningVariable rest with
      | .error e => .error e
      | .ok given => .ok (given.replace (.conditioned read.value given.value (offsetOf 0 tokens)) (by
          have := read.shorter; simp [h] at *; omega))
    | _ => .ok read
termination_by 7 * tokens.length + 4

/-- A number, a name or a declaration. -/
def primary (tokens : List (Placed Token)) : Except Error (Parsed Argument tokens.length) :=
  match tokens with
  | ⟨.number value text, _⟩ :: rest => .ok ⟨.constant value text, rest, by simp⟩
  | ⟨.identifier name, offset⟩ :: rest =>
    match body name offset rest with
    | .error e => .error e
    | .ok none => .ok ⟨.reference name offset, rest, by simp⟩
    | .ok (some read) => .ok (read.replace (.nested read.value) (by simp))
  | tokens => .error (unexpected .argument tokens)
termination_by 7 * tokens.length + 3

end

end Parser

def ofTokens (tokens : Tokens Token) : Except Error Declaration :=
  match tokens.items with
  | ⟨.identifier name, offset⟩ :: rest =>
    match Parser.body name offset rest with
    | .error e => .error e
    | .ok none => .error (.malformed .missingBody (offsetOf tokens.ends rest))
    | .ok (some read) =>
      match read.rest with
      | [] => .ok read.value
      | extra => .error (Parser.unexpected .finish extra)
  | items => .error (Parser.unexpected .declaration items)

def parse (text : String) : Except Error Declaration :=
  (tokenize text).bind ofTokens

end DensityGraph.Declaration
