import DensityGraph.Error
import DensityGraph.Text
import DensityGraph.Workspace.Basic

/-! # What the program prints

An error is reported with what was being done, and with all that lies behind it; a workspace is listed with what is
in it.
-/

namespace DensityGraph.CommandLine

/-- A character of a path between quotes: what cannot be seen is written as its number. -/
def escapeInPath (c : Char) : String :=
  if c = '"' then "\\\""
  else if c = '\\' then "\\\\"
  else if c = '\n' then "\\n"
  else if c = '\r' then "\\r"
  else if c = '\t' then "\\t"
  else if c = '\x00' then "\\0"
  else if c.toNat < 0x20 || (0x7f ≤ c.toNat && c.toNat < 0xa0) || (c != ' ' && Text.isBlank c) then
    "\\u\x7b" ++ String.ofList (Nat.toDigits 16 c.toNat) ++ "\x7d"
  else String.singleton c

def quotedPath (path : String) : String := "\"" ++ String.join (path.toList.map escapeInPath) ++ "\""

/-- A text whose lines after the first begin with blanks. -/
def hanging (blanks : Nat) (text : String) : String :=
  ("\n" ++ String.ofList (List.replicate blanks ' ')).intercalate (text.splitOn "\n")

/-- A number on the right of five places. -/
def rightAligned (n : Nat) : String :=
  let digits := toString n
  String.ofList (List.replicate (5 - digits.length) ' ') ++ digits

/-- Causes with their numbers from `n` on. -/
def numbered (n : Nat) : List String → List String
  | [] => []
  | cause :: rest => (rightAligned n ++ ": " ++ hanging 7 cause) :: numbered (n + 1) rest

/-- The lines of causes, which have numbers if there are several. -/
def causeLines : List String → List String
  | [cause] => ["    " ++ hanging 4 cause]
  | causes => numbered 0 causes

def report (doing : String) (e : ModelError) : String :=
  "\n".intercalate (["Error: " ++ doing, "", "Caused by:"] ++ causeLines e.causes) ++ "\n"

/-- A text followed by blanks up to a width. -/
def padded (width : Nat) (text : String) : String :=
  text ++ String.ofList (List.replicate (width - text.length) ' ')

/-- The current value of a derived parameter, or why it has none. -/
def valueText (w : Workspace) (name : String) : String :=
  match w.value name with
  | .ok value => shown value
  | .error e => "<" ++ e.message ++ ">"

def parameterLine (w : Workspace) (p : Parameter) : String :=
  match p.kind with
  | .free value bounds =>
    "  " ++ padded 16 p.name ++ " = " ++ padded 10 (shown value) ++ " [" ++ shown bounds.lower ++ ", " ++
      shown bounds.upper ++ "]"
  | .derived formula =>
    "  " ++ padded 16 p.name ++ " = " ++ padded 10 (valueText w p.name) ++ " (" ++ formula.source ++ " of " ++
      joined ", " formula.dependencies ++ ")"

def densityLine (d : Density) : String :=
  "  " ++ padded 16 d.name ++ " " ++ padded 17 d.kindWord ++ " " ++ joined ", " d.dependencies

/-- The line of a set, if its name leads to it. -/
def setLine? (w : Workspace) (name : String) : Option String :=
  match w.object? name with
  | some (.set members) => some ("  " ++ padded 16 name ++ " (" ++ joined ", " members ++ ")")
  | _ => none

def snapshotLine (name : String) (snapshot : Snapshot) : String :=
  "  " ++ padded 16 name ++ " " ++
    joined ", " (snapshot.values.entries.map fun entry => entry.1 ++ "=" ++ shown entry.2)

def datasetLine (d : Dataset) : String :=
  "  " ++ padded 16 d.name ++ " " ++ toString d.size ++ " rows (" ++ joined ", " d.columns ++ ")"

/-- A headline and its lines, behind an empty line. -/
def block (title : String) (lines : List String) : List String := "" :: title :: lines

/-- A block that is left out if it is about nothing. -/
def blockUnless (empty : Bool) (title : String) (lines : List String) : List String :=
  if empty then [] else block title lines

def listing (w : Workspace) : List String :=
  ["workspace " ++ quoted w.name ++ " (created " ++ w.createdAt.listing ++ ")"] ++
  block "parameters:" (w.table.parameters.map (parameterLine w)) ++
  block "pdfs:" (w.table.densities.map densityLine) ++
  blockUnless w.sets.entries.isEmpty "sets:" (w.sets.names.filterMap (setLine? w)) ++
  blockUnless w.snapshots.entries.isEmpty "snapshots:"
    (w.snapshots.entries.map fun entry => snapshotLine entry.1 entry.2) ++
  blockUnless w.datasets.entries.isEmpty "datasets:" (w.datasets.values.map datasetLine)

end DensityGraph.CommandLine
