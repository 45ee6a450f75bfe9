import DensityGraph.Declaration.Tree

/-! # The tokens of a declaration, and what can be wrong with its text -/

namespace DensityGraph.Declaration

/-- A token of a declaration.  A number keeps its text, because constants are named by it. -/
inductive Token where
  | identifier (name : String)
  | number (value : Float) (text : String)
  | string (text : String)
  | doubleColon
  | leftParen
  | rightParen
  | leftBracket
  | rightBracket
  | leftBrace
  | rightBrace
  | comma
  | star
  | bar
  deriving DecidableEq, Repr

def Token.describe : Token → String
  | identifier name => "identifier '" ++ name ++ "'"
  | number _ text => "number " ++ text
  | string text => "string '" ++ text ++ "'"
  | doubleColon => "'::'"
  | leftParen => "'('"
  | rightParen => "')'"
  | leftBracket => "'['"
  | rightBracket => "']'"
  | leftBrace => "'\x7b'"
  | rightBrace => "'\x7d'"
  | comma => "','"
  | star => "'*'"
  | bar => "'|'"

def endOfInput : String := "end of input"

/-- What a text should go on with. -/
inductive Expected where
  | token (token : Token)
  | colon
  | declaration
  | finish
  | parameterName
  | densityName
  | quotedFormula
  | conditioningVariable
  | number
  | argument
  deriving DecidableEq, Repr

def Expected.text : Expected → String
  | token t => t.describe
  | colon => "':'"
  | declaration => "a declaration"
  | finish => endOfInput
  | parameterName => "a parameter name"
  | densityName => "a pdf name"
  | quotedFormula => "a quoted formula"
  | conditioningVariable => "a conditioning variable"
  | number => "a number"
  | argument => "an argument"

/-- Why a declaration is malformed, though its tokens stand in an order of the grammar. -/
inductive Reason where
  | invalidName (name : String)
  | invalidSetName (name : String)
  | invalidDatasetName (name : String)
  | missingBody
  | valueCount (name : String) (found : Nat)
  | parameterExpected
  | conditionedOutsideProduct
  | weightedOutsideMixture
  | unweightedBranch (name : String)
  | weightedRemainder (name : String)
  deriving DecidableEq, Repr

def Reason.text : Reason → String
  | invalidName name => "'" ++ name ++ "' is not a valid name"
  | invalidSetName name => "invalid set name '" ++ name ++ "'"
  | invalidDatasetName name => "invalid dataset name '" ++ name ++ "'"
  | missingBody => "expected '[' or '::' after name"
  | valueCount name found => "'" ++ name ++ "[...]' takes 1 to 3 numbers, got " ++ toString found
  | parameterExpected => "expected a parameter"
  | conditionedOutsideProduct => "a conditioned pdf is only allowed as a product factor"
  | weightedOutsideMixture => "a weighted pdf is only allowed as a sum branch"
  | unweightedBranch name => "every branch of '" ++ name ++ "' but the last needs a 'weight*pdf' form"
  | weightedRemainder name =>
    "the last branch of '" ++ name ++ "' takes the remaining weight and must not be weighted"

/-- How many arguments a keyword takes. -/
inductive Arity where
  | exactly (count : Nat)
  | atLeast (count : Nat)
  deriving DecidableEq, Repr

def Arity.text : Arity → String
  | exactly count => toString count
  | atLeast count => "at least " ++ toString count

/-- How many arguments the declaration of a density takes. -/
def Keyword.arity : Keyword → Arity
  | gaussian => .exactly 3
  | uniform => .atLeast 1
  | product => .atLeast 1
  | mixture => .atLeast 2

/-- What is wrong with the text of a declaration. -/
inductive Error where
  | unexpectedCharacter (character : Char) (offset : Nat)
  | unexpectedEnd (expected : Expected)
  | unexpectedToken (found : Token) (expected : Expected) (offset : Nat)
  | unterminatedString (offset : Nat)
  | invalidNumber (text : String) (offset : Nat)
  | unknownKeyword (text : String) (offset : Nat)
  | arity (keyword : Keyword) (found : Nat)
  | malformed (reason : Reason) (offset : Nat)
  deriving DecidableEq, Repr

def Error.message : Error → String
  | unexpectedCharacter character offset =>
    "Unexpected character '" ++ character.toString ++ "' at offset " ++ toString offset
  | unexpectedEnd expected => "Unexpected end of input, expected " ++ expected.text
  | unexpectedToken found expected offset =>
    "Unexpected " ++ found.describe ++ " at offset " ++ toString offset ++ ", expected " ++ expected.text
  | unterminatedString offset => "Unterminated string literal starting at offset " ++ toString offset
  | invalidNumber text offset => "Invalid number '" ++ text ++ "' at offset " ++ toString offset
  | unknownKeyword text offset =>
    "Unknown declaration kind '" ++ text ++ "' at offset " ++ toString offset
  | arity keyword found =>
    keyword.label ++ " expects " ++ keyword.arity.text ++ " argument(s), got " ++ toString found
  | malformed reason offset =>
    "Malformed declaration at offset " ++ toString offset ++ ": " ++ reason.text

end DensityGraph.Declaration
