import DensityGraph.Decimal.Notation
import DensityGraph.Formula.Expr

/-! # Tokens of a formula, and what can be wrong with its text -/

namespace DensityGraph.Formula

/-- A token of a formula. -/
inductive Token where
  | number (value : Float)
  | identifier (name : String)
  | positional (index : Nat)
  | operator (operator : Operator)
  | leftParen
  | rightParen
  | comma
  deriving DecidableEq, Repr

def Token.describe : Token → String
  | number value => "Number(" ++ Decimal.text Decimal.token value ++ ")"
  | identifier name => "Ident(\"" ++ name ++ "\")"
  | positional index => "Positional(" ++ toString index ++ ")"
  | operator op => "Op('" ++ op.symbol.toString ++ "')"
  | leftParen => "LParen"
  | rightParen => "RParen"
  | comma => "Comma"

/-- Why a text is not a formula. -/
inductive Reason where
  | unexpectedCharacter (character : Char)
  | missingDigits
  | invalidNumber (text : String)
  | unexpected (token : Token)
  | unexpectedAfter (token : Token)
  | unexpectedEnd
  | expected (parenthesis : Char)
  deriving DecidableEq, Repr

def Reason.text : Reason → String
  | unexpectedCharacter character => "unexpected character '" ++ character.toString ++ "'"
  | missingDigits => "expected digits after '@'"
  | invalidNumber text => "invalid number '" ++ text ++ "'"
  | unexpected token => "unexpected " ++ token.describe
  | unexpectedAfter token => "unexpected " ++ token.describe ++ " after expression"
  | unexpectedEnd => "unexpected end of formula"
  | expected parenthesis => "expected '" ++ parenthesis.toString ++ "'"

/-- What is wrong with the text of a formula. -/
inductive Fault where
  | malformed (offset : Nat) (reason : Reason)
  | unknownIdentifier (name : String)
  | positionalOutOfRange (index available : Nat)
  | unknownFunction (name : String)
  | functionArity (name : String) (expected found : Nat)
  deriving DecidableEq, Repr

/-- Why a formula cannot be compiled, or has no value. -/
inductive Error where
  | empty
  | fault (formula : String) (fault : Fault)
  | nonFinite (formula : String)
  deriving DecidableEq, Repr

def Error.message : Error → String
  | empty => "Formula is empty"
  | fault formula (.malformed offset reason) =>
    "Malformed formula '" ++ formula ++ "' at offset " ++ toString offset ++ ": " ++ reason.text
  | fault formula (.unknownIdentifier name) =>
    "Formula '" ++ formula ++ "' references '" ++ name ++ "' which is not in its dependency list"
  | fault formula (.positionalOutOfRange index available) =>
    "Formula '" ++ formula ++ "' uses @" ++ toString index ++ " but only " ++ toString available ++
      " dependencies are declared"
  | fault _ (.unknownFunction name) => "Unknown function '" ++ name ++ "'"
  | fault _ (.functionArity name expected found) =>
    "Function '" ++ name ++ "' expects " ++ toString expected ++ " argument(s), got " ++ toString found
  | nonFinite formula => "Formula '" ++ formula ++ "' evaluated to a non-finite value"

end DensityGraph.Formula
