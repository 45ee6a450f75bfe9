import DensityGraph.Formula.Lexer
import DensityGraph.Text

/-! # Reading a formula

```text
sum     := product (('+' | '-') product)*
product := unary (('*' | '/') unary)*
unary   := ('-' | '+') unary | power
power   := atom ('^' unary)?
atom    := number | '@' index | name | function '(' sum (',' sum)* ')' | '(' sum ')'
```

Each reader returns what it has read and the tokens behind it, which are fewer than it was given.
-/

namespace DensityGraph.Formula

open DensityGraph.Text (Placed Tokens offsetOf)

/-- What the tokens of a formula are read against. -/
structure Context where
  dependencies : List String
  /-- the byte offset of the end of the text -/
  ends : Nat

namespace Parser

abbrev Parsed (α : Type) (bound : Nat) := Text.Parsed (Placed Token) α bound

/-- The operations of a sum. -/
def sumOperator? : List (Placed Token) → Option Operator
  | ⟨.operator .add, _⟩ :: _ => some .add
  | ⟨.operator .sub, _⟩ :: _ => some .sub
  | _ => none

/-- The operations of a product. -/
def productOperator? : List (Placed Token) → Option Operator
  | ⟨.operator .mul, _⟩ :: _ => some .mul
  | ⟨.operator .div, _⟩ :: _ => some .div
  | _ => none

theorem tail_lt_of_sumOperator? {tokens : List (Placed Token)} {op : Operator}
    (found : sumOperator? tokens = some op) : tokens.tail.length < tokens.length := by
  cases tokens with
  | nil => simp [sumOperator?] at found
  | cons token rest => simp

theorem tail_lt_of_productOperator? {tokens : List (Placed Token)} {op : Operator}
    (found : productOperator? tokens = some op) : tokens.tail.length < tokens.length := by
  cases tokens with
  | nil => simp [productOperator?] at found
  | cons token rest => simp

/-- A closing parenthesis, which must come next. -/
def closing (ctx : Context) {bound : Nat} {α : Type} (parsed : Parsed α bound) :
    Except Fault (Parsed α bound) :=
  match parsed with
  | ⟨value, ⟨.rightParen, _⟩ :: rest, shorter⟩ => .ok ⟨value, rest, by simp at shorter; omega⟩
  | ⟨_, rest, _⟩ => .error (.malformed (offsetOf ctx.ends rest) (.expected ')'))

/-- The slot of a name, which is its first place in the dependency list. -/
def slotOf (ctx : Context) (name : String) : Except Fault Expr :=
  match ctx.dependencies.idxOf? name with
  | some index => .ok (.slot index)
  | none => .error (.unknownIdentifier name)

mutual

/-- Products joined by `+` and `-`. -/
def sum (ctx : Context) (tokens : List (Placed Token)) : Except Fault (Parsed Expr tokens.length) :=
  match product ctx tokens with
  | .error fault => .error fault
  | .ok left => sumTail ctx tokens.length left
termination_by 7 * tokens.length + 4
decreasing_by
  · omega
  · have := left.shorter; omega

def sumTail (ctx : Context) (bound : Nat) (left : Parsed Expr bound) : Except Fault (Parsed Expr bound) :=
  match found : sumOperator? left.rest with
  | none => .ok left
  | some op =>
    match product ctx left.rest.tail with
    | .error fault => .error fault
    | .ok right =>
      sumTail ctx bound ⟨.binary op left.value right.value, right.rest, by
        have := right.shorter; have := left.shorter; simp at *; omega⟩
termination_by 7 * left.rest.length + 5
decreasing_by
  · have := tail_lt_of_sumOperator? found; omega
  · have := right.shorter; have := tail_lt_of_sumOperator? found; omega

/-- Factors joined by `*` and `/`. -/
def product (ctx : Context) (tokens : List (Placed Token)) : Except Fault (Parsed Expr tokens.length) :=
  match unary ctx tokens with
  | .error fault => .error fault
  | .ok left => productTail ctx tokens.length left
termination_by 7 * tokens.length + 3
decreasing_by
  · omega
  · have := left.shorter; omega

def productTail (ctx : Context) (bound : Nat) (left : Parsed Expr bound) :
    Except Fault (Parsed Expr bound) :=
  match found : productOperator? left.rest with
  | none => .ok left
  | some op =>
    match unary ctx left.rest.tail with
    | .error fault => .error fault
    | .ok right =>
      productTail ctx bound ⟨.binary op left.value right.value, right.rest, by
        have := right.shorter; have := left.shorter; simp at *; omega⟩
termination_by 7 * left.rest.length + 4
decreasing_by
  · have := tail_lt_of_productOperator? found; omega
  · have := right.shorter; have := tail_lt_of_productOperator? found; omega

/-- Signs in front of a power. -/
def unary (ctx : Context) (tokens : List (Placed Token)) : Except Fault (Parsed Expr tokens.length) :=
  match tokens with
  | ⟨.operator .sub, _⟩ :: rest =>
    match unary ctx rest with
    | .error fault => .error fault
    | .ok operand => .ok ⟨.negate operand.value, operand.rest, by have := operand.shorter; simp; omega⟩
  | ⟨.operator .add, _⟩ :: rest =>
    match unary ctx rest with
    | .error fault => .error fault
    | .ok operand => .ok (operand.widen (by simp))
  | tokens => power ctx tokens
termination_by 7 * tokens.length + 2

/-- An atom with an optional exponent. -/
def power (ctx : Context) (tokens : List (Placed Token)) : Except Fault (Parsed Expr tokens.length) :=
  match atom ctx tokens with
  | .error fault => .error fault
  | .ok base =>
    match h : base.rest with
    | ⟨.operator .pow, _⟩ :: rest =>
      match unary ctx rest with
      | .error fault => .error fault
      | .ok exponent => .ok ⟨.binary .pow base.value exponent.value, exponent.rest, by
          have := exponent.shorter; have := base.shorter; simp [h] at *; omega⟩
    | _ => .ok base
termination_by 7 * tokens.length + 1
decreasing_by
  · omega
  · have := base.shorter; simp only [h, List.length_cons] at *; omega

/-- A number, a dependency, a call or a sum in parentheses. -/
def atom (ctx : Context) (tokens : List (Placed Token)) : Except Fault (Parsed Expr tokens.length) :=
  match tokens with
  | [] => .error (.malformed ctx.ends .unexpectedEnd)
  | ⟨.number value, _⟩ :: rest => .ok ⟨.number value, rest, by simp⟩
  | ⟨.positional index, _⟩ :: rest =>
    if index < ctx.dependencies.length then .ok ⟨.slot index, rest, by simp⟩
    else .error (.positionalOutOfRange index ctx.dependencies.length)
  | ⟨.identifier name, _⟩ :: ⟨.leftParen, _⟩ :: rest =>
    match Builtin.ofName? name with
    | none => .error (.unknownFunction name)
    | some function =>
      match arguments ctx rest with
      | .error fault => .error fault
      | .ok inside =>
        match closing ctx inside with
        | .error fault => .error fault
        | .ok read =>
          if read.value.length = function.arity then
            .ok ⟨.call function read.value, read.rest, by have := read.shorter; simp; omega⟩
          else .error (.functionArity name function.arity read.value.length)
  | ⟨.identifier name, _⟩ :: rest =>
    match slotOf ctx name with
    | .error fault => .error fault
    | .ok slot => .ok ⟨slot, rest, by simp⟩
  | ⟨.leftParen, _⟩ :: rest =>
    match sum ctx rest with
    | .error fault => .error fault
    | .ok inside =>
      match closing ctx inside with
      | .error fault => .error fault
      | .ok read => .ok (read.widen (by simp))
  | ⟨token, _⟩ :: rest => .error (.malformed (offsetOf ctx.ends rest) (.unexpected token))
termination_by 7 * tokens.length + 0

/-- The arguments of a call, up to its closing parenthesis. -/
def arguments (ctx : Context) (tokens : List (Placed Token)) :
    Except Fault (Parsed (List Expr) (tokens.length + 1)) :=
  match tokens with
  | ⟨.rightParen, offset⟩ :: rest => .ok ⟨[], ⟨.rightParen, offset⟩ :: rest, by simp⟩
  | tokens =>
    match sum ctx tokens with
    | .error fault => .error fault
    | .ok first =>
      argumentsTail ctx (tokens.length + 1) ⟨[first.value], first.rest, by have := first.shorter; omega⟩
termination_by 7 * tokens.length + 6
decreasing_by
  · omega
  · have := first.shorter; omega

def argumentsTail (ctx : Context) (bound : Nat) (before : Parsed (List Expr) bound) :
    Except Fault (Parsed (List Expr) bound) :=
  match h : before.rest with
  | ⟨.comma, _⟩ :: rest =>
    match sum ctx rest with
    | .error fault => .error fault
    | .ok next =>
      argumentsTail ctx bound ⟨before.value ++ [next.value], next.rest, by
        have := next.shorter; have := before.shorter; simp [h] at *; omega⟩
  | _ => .ok before
termination_by 7 * before.rest.length + 6
decreasing_by
  · simp only [h, List.length_cons]; omega
  · have := next.shorter; simp only [h, List.length_cons]; omega

end

end Parser

/-- The expression that a text of tokens spells. -/
def parse (dependencies : List String) (tokens : Tokens Token) : Except Fault Expr :=
  match Parser.sum ⟨dependencies, tokens.ends⟩ tokens.items with
  | .error fault => .error fault
  | .ok read =>
    match read.rest with
    | [] => .ok read.value
    | token :: _ => .error (.malformed token.offset (.unexpectedAfter token.value))

end DensityGraph.Formula
