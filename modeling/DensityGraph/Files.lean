import DensityGraph.Bytes

/-! # Files

A directory as a map from names to contents, and how a path is resolved in it.  Sub-directories do not
occur: a path through a name that is no directory leads nowhere.
-/

namespace DensityGraph

/-- Why a file cannot be opened, read or written. -/
inductive FileError where
  | notFound
  | notADirectory
  | isADirectory
  | taken
  | nameTooLong
  | nulInPath
  | noFileName
  | notText
  | tooLarge (size limit : Nat)
  | other (reason : String)
  deriving DecidableEq, Repr

def FileError.message : FileError → String
  | notFound => "No such file or directory (os error 2)"
  | notADirectory => "Not a directory (os error 20)"
  | isADirectory => "Is a directory (os error 21)"
  | taken => "File exists (os error 17)"
  | nameTooLong => "File name too long (os error 36)"
  | nulInPath => "file name contained an unexpected NUL byte"
  | noFileName => "destination has no file name"
  | notText => "stream did not contain valid UTF-8"
  | tooLarge size limit =>
    "artifact payload of " ++ toString size ++ " bytes exceeds max_artifact_size " ++ toString limit
  | other reason => reason

namespace Path

/-- What stands between the slashes of a path. -/
def pieces (path : String) : List String := (path.toList.splitOn '/').map String.ofList

/-- The parts of a path between its slashes, without those that stay where they are. -/
def parts (path : String) : List String :=
  (pieces path).filter fun part => part != "" && part != "."

/-- The path ends in a slash or in a dot after one, so it can only lead to a directory. -/
def wantsDirectory (path : String) : Bool :=
  1 < (pieces path).length && ((pieces path).getLast? == some "" || (pieces path).getLast? == some ".")

/-- The greatest number of bytes in a part of a path. -/
def maxPart : Nat := 255

/-- The greatest number of bytes in a path. -/
def maxLength : Nat := 4095

/-- Neither a path nor a part of it is too long. -/
def fits (path : String) : Bool :=
  decide (path.utf8ByteSize ≤ maxLength) && (parts path).all fun part => decide (part.utf8ByteSize ≤ maxPart)

/-- The last part of a path, if it names something. -/
def fileName? (path : String) : Option String :=
  match (parts path).getLast? with
  | none => none
  | some name => if name = ".." then none else some name

end Path

/-- The files of the current directory. -/
structure Directory where
  files : List (String × Bytes)
  deriving DecidableEq

namespace Directory

def empty : Directory := ⟨[]⟩

def get? (directory : Directory) (name : String) : Option Bytes := directory.files.lookup name

def erase (directory : Directory) (name : String) : Directory :=
  ⟨directory.files.filter fun file => file.1 != name⟩

/-- The directory with a file that has the given contents. -/
def put (directory : Directory) (name : String) (contents : Bytes) : Directory :=
  ⟨(name, contents) :: (directory.erase name).files⟩

/-- The names of the files, sorted. -/
def names (directory : Directory) : List String :=
  (directory.files.map (·.1)).mergeSort fun a b => decide (a ≤ b)

/-- What a path leads to. -/
inductive Location where
  | directory
  | file (name : String)
  | absent (name : String)
  | error (cause : FileError)
  deriving DecidableEq, Repr

/-- Follows a path from the current directory. -/
def locate (directory : Directory) (path : String) : Location :=
  if path.toList.contains '\x00' then .error .nulInPath
  else if path = "" then .error .notFound
  else if !Path.fits path then .error .nameTooLong
  else
    match Path.parts path with
    | [] => .directory
    | [name] =>
      if name = ".." then .directory
      else if (directory.get? name).isSome then
        if Path.wantsDirectory path then .error .notADirectory else .file name
      else .absent name
    | parts =>
      if parts.all (· = "..") then .directory
      else
        match parts with
        | first :: _ =>
          if (directory.get? first).isSome then .error .notADirectory else .error .notFound
        | [] => .directory

/-- Opens a path for reading. -/
def openable (directory : Directory) (path : String) : Except FileError Location :=
  match directory.locate path with
  | .absent _ => .error .notFound
  | .error cause => .error cause
  | location => .ok location

/-- Reads what has been opened; a directory can be opened, but not read. -/
def contents (directory : Directory) : Location → Except FileError Bytes
  | .file name =>
    match directory.get? name with
    | some bytes => .ok bytes
    | none => .error .notFound
  | .directory => .error .isADirectory
  | .absent _ => .error .notFound
  | .error cause => .error cause

end Directory

end DensityGraph
