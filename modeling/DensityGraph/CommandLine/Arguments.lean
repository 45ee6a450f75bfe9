/-! # Arguments of the command line

The first argument that is no option names a command; the others are options and the file that the command is about.
-/

namespace DensityGraph.CommandLine

/-- What is to be done. -/
inductive Command where
  /-- does the job in a file, saving to another path if one is given -/
  | run (job : String) (output? : Option String)
  /-- lists what an artifact holds, or writes its document -/
  | inspect (artifact : String) (asJson : Bool)
  | showExample
  deriving DecidableEq, Repr

/-- The arguments that a command takes. -/
structure Shape where
  file : Bool
  output : Bool
  json : Bool

/-- The arguments that have been given, each once at most. -/
structure Given where
  verbose : Bool
  file? : Option String
  output? : Option String
  json : Bool
  deriving DecidableEq, Repr

namespace Given

def none : Given := ⟨false, .none, .none, false⟩

def addVerbose (given : Given) : Option Given :=
  if given.verbose then .none else some { given with verbose := true }

def addJson (shape : Shape) (given : Given) : Option Given :=
  if shape.json && !given.json then some { given with json := true } else .none

def addOutput (shape : Shape) (given : Given) (path : String) : Option Given :=
  if shape.output && given.output?.isNone && path != "" then some { given with output? := some path } else .none

def addFile (shape : Shape) (given : Given) (path : String) : Option Given :=
  if shape.file && given.file?.isNone && path != "" then some { given with file? := some path } else .none

end Given

/-- An argument that cannot be an option. -/
def isPlain (argument : String) : Bool := argument == "-" || !argument.startsWith "-"

/-- The letters of an argument behind its dash: the options they give, and whether a path to save to is to follow as
an argument of its own. -/
def letters (shape : Shape) (given : Given) : List Char → Option (Given × Bool)
  | [] => some (given, false)
  | 'v' :: rest =>
    match given.addVerbose with
    | some given => letters shape given rest
    | none => none
  | 'o' :: [] => if shape.output then some (given, true) else none
  | 'o' :: '=' :: path => (given.addOutput shape (String.ofList path)).map fun given => (given, false)
  | 'o' :: path => (given.addOutput shape (String.ofList path)).map fun given => (given, false)
  | _ => none

/-- The options that one argument gives, and whether a path to save to is to follow. -/
def option? (shape : Shape) (given : Given) (argument : String) : Option (Given × Bool) :=
  if argument = "--verbose" then given.addVerbose.map fun given => (given, false)
  else if argument = "--json" then (given.addJson shape).map fun given => (given, false)
  else if argument = "--output" then (if shape.output then some (given, true) else none)
  else if argument.startsWith "--output=" then
    (given.addOutput shape (String.ofList (argument.toList.drop "--output=".length))).map fun given => (given, false)
  else if argument.startsWith "--" then none
  else letters shape given (argument.toList.drop 1)

/-- Takes the arguments of a command; behind two dashes none is an option. -/
def take (shape : Shape) (given : Given) (plainOnly : Bool) : List String → Option Given
  | [] => some given
  | argument :: rest =>
    if plainOnly || isPlain argument then
      match given.addFile shape argument with
      | some given => take shape given plainOnly rest
      | none => none
    else if argument = "--" then take shape given true rest
    else
      match option? shape given argument with
      | none => none
      | some (given, false) => take shape given plainOnly rest
      | some (given, true) =>
        match rest with
        | path :: rest =>
          if isPlain path then
            match given.addOutput shape path with
            | some given => take shape given plainOnly rest
            | none => none
          else none
        | [] => none

/-- The command of a word and the arguments behind it. -/
def commandOf? (word : String) (arguments : List String) : Option Command :=
  match word with
  | "run" => do
    let given ← take ⟨true, true, false⟩ Given.none false arguments
    return .run (← given.file?) given.output?
  | "inspect" => do
    let given ← take ⟨true, false, true⟩ Given.none false arguments
    return .inspect (← given.file?) given.json
  | "example" => do
    let _ ← take ⟨false, false, false⟩ Given.none false arguments
    return .showExample
  | _ => none

/-- The command that all arguments give. -/
def parse? : List String → Option Command
  | [] => none
  | "-v" :: word :: arguments => if word = "-v" || word = "--verbose" then none else commandOf? word arguments
  | "--verbose" :: word :: arguments =>
    if word = "-v" || word = "--verbose" then none else commandOf? word arguments
  | word :: arguments => commandOf? word arguments

end DensityGraph.CommandLine
