import DensityGraph.Toml.Scalar

/-! # Reading TOML documents -/

namespace DensityGraph.Toml

/-- What follows, where it is shorter than a text that has been begun. -/
abbrev Rest (bound : Nat) := { rest : List Char // rest.length < bound }

/-- What follows something that has been read, which is shorter. -/
def rest? (bound : Nat) (rest : List Char) : Option (Rest bound) :=
  if h : rest.length < bound then some ⟨rest, h⟩ else none

/-- How many keys may be in a row, and how many lists and tables around a value. -/
def depthLimit : Nat := 80

/-- A character of a key without quotes. -/
def isBare (c : Char) : Bool := c.isAlphanum || c == '_' || c == '-'

def simpleKey? (text : List Char) : Option (String × List Char) :=
  match text with
  | '"' :: rest => basic? [] rest
  | '\'' :: rest => literal? rest
  | _ =>
    let name := text.takeWhile isBare
    if name.isEmpty then none else some (String.ofList name, text.drop name.length)

/-- Keys with dots between them, blanks around each; `before` are those read, backwards. -/
def dottedKey? (before : List String) (text : List Char) : Option (List String × List Char) := do
  let (key, rest) ← simpleKey? (text.dropWhile isSpace)
  match rest.dropWhile isSpace with
  | '.' :: more =>
    let more ← rest? text.length more
    dottedKey? (key :: before) more.val
  | rest => some ((key :: before).reverse, rest)
termination_by text.length
decreasing_by exact more.property

/-- The keys of a path with the last one apart, and what follows. -/
def path? (text : List Char) : Option (List String × String × List Char) := do
  let (keys, rest) ← dottedKey? [] text
  match keys.reverse with
  | [] => none
  | last :: before => if keys.length < depthLimit then some (before.reverse, last, rest) else none

/-- The path in front of an equals sign, and what follows. -/
def assigned? (text : List Char) : Option (List String × String × List Char) := do
  let (path, key, rest) ← path? text
  match rest with
  | '=' :: rest => some (path, key, rest.dropWhile isSpace)
  | _ => none

def skipComment : List Char → List Char
  | '#' :: rest => rest.dropWhile isPlain
  | rest => rest

/-- What follows blanks, ends of lines and comments. -/
def skipLines (text : List Char) : List Char :=
  let rest := skipBlankLines text
  match newline? (skipComment rest) with
  | none => rest
  | some after => if after.length < text.length then skipLines after else rest
termination_by text.length

mutual

/-- A value inside `depth` others, and what follows. -/
def value? (depth : Nat) (text : List Char) : Option (Toml × Rest text.length) :=
  match h : text with
  | '[' :: rest =>
    if depth + 1 < depthLimit then items? (depth + 1) (rest.length + 1) [] rest (by simp)
    else none
  | '\x7b' :: rest =>
    if depth + 1 < depthLimit then
      match rest.dropWhile isSpace with
      | '\x7d' :: after => (rest? (rest.length + 1) after).map fun after => (.table .value [], after)
      | _ => pairs? (depth + 1) (rest.length + 1) [] rest (by simp)
    else none
  | _ => do
    let (value, rest) ← scalar? text
    return (value, ← rest? _ rest)
termination_by (text.length, 0)
decreasing_by
  all_goals exact Prod.Lex.left _ _ (by simp)

/-- The items of a list from the next one on; `before` are those read, backwards. -/
def items? (depth bound : Nat) (before : List Toml) (text : List Char) (h : text.length < bound) :
    Option (Toml × Rest bound) :=
  match skipLines text with
  | ']' :: after => (rest? bound after).map fun after => (.array .value before.reverse, after)
  | start =>
    if g : start.length ≤ text.length then
      match value? depth start with
      | none => none
      | some (item, rest) =>
        match skipLines rest.val with
        | ',' :: more =>
          match rest? text.length more with
          | none => none
          | some more => items? depth bound (item :: before) more.val (by have := more.property; omega)
        | ']' :: after => (rest? bound after).map fun after => (.array .value (item :: before).reverse, after)
        | _ => none
    else none
termination_by (text.length, 1)
decreasing_by
  · rcases Nat.lt_or_eq_of_le g with less | same
    · exact Prod.Lex.left _ _ less
    · exact same ▸ Prod.Lex.right _ (by decide)
  · exact Prod.Lex.left _ _ more.property

/-- The entries of a table on one line from the next one on; `before` are those read, backwards. -/
def pairs? (depth bound : Nat) (before : List Assignment) (text : List Char) (h : text.length < bound) :
    Option (Toml × Rest bound) :=
  match assigned? text with
  | none => none
  | some (path, key, start) =>
    if g : start.length < text.length then
      match value? depth start with
      | none => none
      | some (value, rest) =>
        let before := ⟨path, key, value⟩ :: before
        match rest.val.dropWhile isSpace with
        | ',' :: more =>
          match rest? text.length more with
          | none => none
          | some more => pairs? depth bound before more.val (by have := more.property; omega)
        | '\x7d' :: after => do
          let entries ← assignAll [] before.reverse
          return (.table .value entries, ← rest? bound after)
        | _ => none
    else none
termination_by (text.length, 1)
decreasing_by
  · exact Prod.Lex.left _ _ g
  · exact Prod.Lex.left _ _ more.property

end

/-- What the assignments that are being read belong to. -/
inductive Section where
  | document
  | table (path : List String) (key : String)
  | item (path : List String) (key : String)

/-- The entries with the assignments of a section. -/
def Section.close (place : Section) (entries : Entries) (assignments : List Assignment) : Option Entries :=
  match place with
  | document => assignAll entries assignments
  | table path key => openTable entries path key assignments
  | item path key => openItem entries path key assignments

/-- What follows the end of a line that has been read, which may be the end of the text. -/
def lineEnd? (text : List Char) : Option (List Char) :=
  match skipComment (text.dropWhile isSpace) with
  | [] => some []
  | rest => newline? rest

/-- The section of a header behind its first bracket, and what follows. -/
def header? (text : List Char) : Option (Section × List Char) := do
  match text with
  | '[' :: rest =>
    let (path, key, rest) ← path? rest
    match rest with
    | ']' :: ']' :: rest => some (.item path key, rest)
    | _ => none
  | _ =>
    let (path, key, rest) ← path? text
    match rest with
    | ']' :: rest => some (.table path key, rest)
    | _ => none

/-- The assignment of a line, and what follows. -/
def assignment? (text : List Char) : Option (Assignment × List Char) := do
  let (path, key, start) ← assigned? text
  let (value, rest) ← value? 0 start
  return (⟨path, key, value⟩, rest.val)

/-- The entries of a document from a line on: `entries` are those of the sections before, `before` the
assignments of this section, backwards. -/
def lines? (entries : Entries) (place : Section) (before : List Assignment) (text : List Char) :
    Option Entries :=
  match text.dropWhile isSpace with
  | [] => place.close entries before.reverse
  | '#' :: _ => do
    let rest ← rest? text.length (← lineEnd? text)
    lines? entries place before rest.val
  | '[' :: header => do
    let entries ← place.close entries before.reverse
    let (place, rest) ← header? header
    let rest ← rest? text.length (← lineEnd? rest)
    lines? entries place [] rest.val
  | start =>
    match newline? start with
    | some rest => do
      let rest ← rest? text.length rest
      lines? entries place before rest.val
    | none => do
      let (assignment, rest) ← assignment? start
      let rest ← rest? text.length (← lineEnd? rest)
      lines? entries place (assignment :: before) rest.val
termination_by text.length
decreasing_by all_goals exact rest.property

def read? (text : String) : Option Entries :=
  match text.toList with
  | '\uFEFF' :: rest => lines? [] .document [] rest
  | all => lines? [] .document [] all

end DensityGraph.Toml
