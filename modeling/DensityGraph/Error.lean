import DensityGraph.Declaration.Error
import DensityGraph.Decimal.Notation
import DensityGraph.Files
import DensityGraph.Formula.Token

/-! # Errors of a model

Every error is a cause with the things it is about; its wording is made by one function.
-/

namespace DensityGraph

/-- A number as messages write it. -/
def shown (value : Float) : String := Decimal.text Decimal.plain value

def quoted (text : String) : String := "'" ++ text ++ "'"

def joined (separator : String) (texts : List String) : String := separator.intercalate texts

/-- What a name should refer to. -/
inductive Role where
  | node
  | parameter
  | density
  | set
  deriving DecidableEq, Repr

def Role.word : Role → String
  | node => "node"
  | parameter => "parameter"
  | density => "pdf"
  | set => "set"

/-- Why a density makes no sense. -/
inductive CompositionFault where
  | weightOutside (weight : String) (value : Float)
  | weightsExceed (total : Float)
  | emptyUniform (owner : String)
  | repeatedVariable (owner variableName : String)
  | emptyProduct (owner : String)
  | overlap (owner variableName : String)
  | fewBranches (owner : String)
  | branchVariables (owner branch remainder : String)
  | derivedVariable (owner variableName : String)
  | noConditional (owner : String)
  | marginalMisses (marginal shared : String)
  | conditionalGenerates (conditional shared : String)
  | unconditioned (conditional shared : String)
  | noGenerator (owner variableName : String) (conditionals : List String)
  deriving DecidableEq, Repr

def CompositionFault.text : CompositionFault → String
  | weightOutside weight value => "weight " ++ quoted weight ++ " = " ++ shown value ++ " is outside [0, 1]"
  | weightsExceed total => "explicit weights sum to " ++ shown total ++ ", which exceeds 1"
  | emptyUniform owner => "Uniform " ++ quoted owner ++ " needs at least one variable"
  | repeatedVariable owner name => "Uniform " ++ quoted owner ++ " lists " ++ quoted name ++ " twice"
  | emptyProduct owner => "Product " ++ quoted owner ++ " needs at least one factor"
  | overlap owner name =>
    quoted owner ++ ": variable " ++ quoted name ++ " is generated by more than one factor"
  | fewBranches owner => "Sum " ++ quoted owner ++ " needs at least two branches"
  | branchVariables owner branch remainder =>
    "Sum " ++ quoted owner ++ ": branch " ++ quoted branch ++ " generates different variables than " ++
      quoted remainder
  | derivedVariable owner name => quoted owner ++ " cannot generate derived parameter " ++ quoted name
  | noConditional owner => quoted owner ++ " has no conditional PDF"
  | marginalMisses marginal shared =>
    "marginal " ++ quoted marginal ++ " does not generate shared variable " ++ quoted shared
  | conditionalGenerates conditional shared =>
    "conditional " ++ quoted conditional ++ " generates " ++ quoted shared ++ " itself"
  | unconditioned conditional shared =>
    quoted conditional ++ " is not conditioned on " ++ quoted shared ++
      ": none of its parameters depend on it"
  | noGenerator owner name conditionals =>
    "product " ++ quoted owner ++ ": no factor generates " ++ quoted name ++ " for " ++
      joined ", " (conditionals.map fun c => quoted (c ++ "|" ++ name))

/-- Why no data can be drawn. -/
inductive SamplingFault where
  | undeclared (density : String)
  | notGenerated (density observable : String)
  | requestedTwice (observable : String)
  | width (density parameter : String) (value : Float)
  | truncated (density observable : String) (lower upper : Float) (attempts : Nat) (mean width : Float)
  | notFree (observable : String)
  | notDrawn (density observable : String)
  deriving DecidableEq, Repr

def SamplingFault.text : SamplingFault → String
  | undeclared density => quoted density ++ " is not a declared pdf"
  | notGenerated density observable =>
    quoted density ++ " does not generate observable " ++ quoted observable
  | requestedTwice observable => "observable " ++ quoted observable ++ " requested twice"
  | width density parameter value =>
    quoted density ++ ": width " ++ quoted parameter ++ " = " ++ shown value ++ " is not positive"
  | truncated density observable lower upper attempts mean spread =>
    quoted density ++ ": no draw of " ++ quoted observable ++ " inside [" ++ shown lower ++ ", " ++
      shown upper ++ "] after " ++ toString attempts ++ " attempts (mean " ++ shown mean ++ ", width " ++
      shown spread ++ ")"
  | notFree observable => quoted observable ++ " is not a free parameter"
  | notDrawn density observable => quoted observable ++ " was not drawn by " ++ quoted density

/-- A number of 32 bits as eight hexadecimal digits. -/
def hex32 (n : UInt32) : String :=
  let digits := Nat.toDigits 16 n.toNat
  String.ofList (List.replicate (8 - digits.length) '0' ++ digits)

def byteList (bytes : Bytes) : String :=
  "[" ++ joined ", " (bytes.map fun b => toString b.toNat) ++ "]"

/-- Why bytes are not an artifact or not a frame. -/
inductive FrameFault where
  | shortRead
  | magic (expected found : Bytes)
  | formatVersion (expected found : UInt8)
  | codecVersion (expected found : UInt8)
  | tooLong (length limit : Nat)
  | checksum (stored computed : UInt32)
  /-- the contents are not what they should be; the text says why, if a rule of this library refused them -/
  | contents (reason : Option String)
  deriving DecidableEq, Repr

/-- A text with its reason, if there is one. -/
def withReason (text : String) : Option String → String
  | none => text
  | some reason => text ++ ": " ++ reason

def FrameFault.text : FrameFault → String
  | shortRead => "failed to fill whole buffer"
  | magic expected found =>
    "invalid magic bytes: expected " ++ byteList expected ++ ", got " ++ byteList found
  | formatVersion expected found =>
    "unsupported artifact version: " ++ toString found.toNat ++ " (expected " ++ toString expected.toNat ++
      ")"
  | codecVersion expected found =>
    "unsupported codec version: " ++ toString found.toNat ++ " (expected " ++ toString expected.toNat ++ ")"
  | tooLong length limit => "frame size " ++ toString length ++ " exceeds maximum " ++ toString limit
  | checksum stored computed =>
    "CRC mismatch: stored=" ++ hex32 stored ++ ", computed=" ++ hex32 computed
  | contents reason => withReason "deserialization failed" reason

/-- Why stored data is not a workspace or not a data set. -/
inductive Corruption where
  | document (reason : Option String)
  | frame (path : String) (fault : FrameFault)
  | payloadTooLong (size limit : Nat)
  | trailingBytes (path : String)
  | rowWidth (dataset : String) (row found expected : Nat)
  | notFinite (dataset : String) (row : Nat)
  | setMember (set member : String)
  | snapshotValue (snapshot parameter : String)
  | snapshotKey (key name : String)
  | datasetKey (key name : String)
  /-- a rule of the model is broken; the text is the wording of its error -/
  | rule (text : String)
  deriving DecidableEq, Repr

def Corruption.text : Corruption → String
  | document reason => withReason "invalid JSON" reason
  | frame path fault => path ++ ": " ++ fault.text
  | payloadTooLong size limit =>
    "frame of " ++ toString size ++ " bytes exceeds maximum " ++ toString limit
  | trailingBytes path => path ++ ": trailing bytes after artifact frame"
  | rowWidth dataset row found expected =>
    "dataset " ++ quoted dataset ++ ": row " ++ toString row ++ " has " ++ toString found ++
      " values, expected " ++ toString expected
  | notFinite dataset row =>
    "dataset " ++ quoted dataset ++ ": row " ++ toString row ++ " holds a non-finite value"
  | setMember set member => "set " ++ quoted set ++ " names unknown parameter " ++ quoted member
  | snapshotValue snapshot parameter =>
    "snapshot " ++ quoted snapshot ++ " holds an invalid value for " ++ quoted parameter
  | snapshotKey key name => "snapshot stored as " ++ quoted key ++ " is named " ++ quoted name
  | datasetKey key name => "dataset stored as " ++ quoted key ++ " is named " ++ quoted name
  | rule text => text

/-- Why settings are refused. -/
inductive ConfigFault where
  | noAttempts
  | sizeTooSmall (limit found : Nat)
  | sizeTooLarge (limit found : Nat)
  | noDeclarations
  | noObservations (dataset : String)
  | notToml
  deriving DecidableEq, Repr

def ConfigFault.text : ConfigFault → String
  | noAttempts => "max_truncation_attempts must be > 0"
  | sizeTooSmall limit found =>
    "max_artifact_size must be at least " ++ toString limit ++ " bytes (got " ++ toString found ++ ")"
  | sizeTooLarge limit found =>
    "max_artifact_size must be at most " ++ toString limit ++ " bytes (got " ++ toString found ++ ")"
  | noDeclarations => "job has no declarations"
  | noObservations dataset => "dataset " ++ quoted dataset ++ " requests zero observations"
  | notToml => "invalid TOML"

inductive FileAction where
  | openFile
  | read
  | write
  deriving DecidableEq, Repr

def FileAction.word : FileAction → String
  | openFile => "opening"
  | read => "reading"
  | write => "writing"

/-- Why an operation on a model failed. -/
inductive ModelError where
  | duplicateName (name : String)
  | unknownReference (name : String) (expected : Role)
  | cycle (name : String)
  | formula (error : Formula.Error)
  | declaration (error : Declaration.Error)
  | composition (fault : CompositionFault)
  | invalidSampleCount (count : Nat)
  | sampling (fault : SamplingFault)
  | unknownSnapshot (name : String)
  | outOfBounds (name : String) (value lower upper : Float)
  | invalidRange (name : String) (lower upper : Float)
  | readOnly (name : String)
  | file (action : FileAction) (path : String) (cause : FileError)
  | corrupt (corruption : Corruption)
  | config (fault : ConfigFault)
  deriving DecidableEq, Repr

namespace ModelError

def message : ModelError → String
  | duplicateName name => "Name " ++ quoted name ++ " is already declared"
  | unknownReference name expected => "Unknown " ++ expected.word ++ " " ++ quoted name
  | cycle name => "Declaring " ++ quoted name ++ " would create a dependency cycle"
  | formula error => "Formula error: " ++ error.message
  | declaration error => "Syntax error: " ++ error.message
  | composition fault => "Composition error: " ++ fault.text
  | invalidSampleCount count => "Invalid sample count " ++ toString count ++ ": must be positive"
  | sampling fault => "Sampler error: " ++ fault.text
  | unknownSnapshot name => "Unknown snapshot " ++ quoted name
  | outOfBounds name value lower upper =>
    "Value " ++ shown value ++ " of " ++ quoted name ++ " is outside its bounds [" ++ shown lower ++ ", " ++
      shown upper ++ "]"
  | invalidRange name lower upper =>
    "Invalid range [" ++ shown lower ++ ", " ++ shown upper ++ "] for " ++ quoted name ++
      ": lower bound exceeds upper bound"
  | readOnly name => "Parameter " ++ quoted name ++ " is derived and cannot be set directly"
  | file action path _ => "IO error: " ++ action.word ++ " " ++ path
  | corrupt corruption => "Corrupt artifact: " ++ corruption.text
  | config fault => "Invalid configuration: " ++ fault.text

/-- The wordings of what lies behind an error, its own first. -/
def causes : ModelError → List String
  | formula error => [(formula error).message, error.message]
  | declaration error => [(declaration error).message, error.message]
  | file action path cause => [(file action path cause).message, cause.message]
  | error => [error.message]

/-- The text of a declaration is malformed. -/
def isSyntax : ModelError → Bool
  | declaration _ => true
  | _ => false

/-- A name does not refer to what it should, or is taken. -/
def isReferential : ModelError → Bool
  | duplicateName _ | unknownReference .. | unknownSnapshot _ | cycle _ => true
  | _ => false

/-- A value or a range is refused. -/
def isBounds : ModelError → Bool
  | outOfBounds .. | invalidRange .. => true
  | _ => false

/-- Storing or loading failed. -/
def isPersistence : ModelError → Bool
  | file .. | corrupt _ => true
  | _ => false

end ModelError

end DensityGraph
