import DensityGraph.Formula.Lexer

/-! # Names

A name is an identifier of ASCII letters, digits and underscores, or the text of a finite number: constants
are named by their text.  Maps from names are kept in the order of the names.
-/

namespace DensityGraph

/-- An identifier: a letter or underscore, then letters, digits and underscores. -/
def isIdentifier : List Char → Bool
  | [] => false
  | c :: rest => Formula.Lexer.beginsName c && rest.all Formula.Lexer.continuesName

/-- A text that can name a node. -/
def isValidName (name : String) : Bool :=
  match name.toList with
  | [] => false
  | c :: rest =>
    if Formula.Lexer.beginsName c then isIdentifier (c :: rest) else (Decimal.readFinite? (c :: rest)).isSome

/-- A map from names, kept as a list of entries whose names increase. -/
structure NameMap (α : Type) where
  entries : List (String × α)
  deriving DecidableEq, Repr

namespace NameMap

def empty {α : Type} : NameMap α := ⟨[]⟩

def get? {α : Type} (map : NameMap α) (name : String) : Option α := map.entries.lookup name

def contains {α : Type} (map : NameMap α) (name : String) : Bool := (map.get? name).isSome

/-- Puts an entry at its place in a list of entries, instead of one of the same name. -/
def insertEntry {α : Type} (name : String) (value : α) : List (String × α) → List (String × α)
  | [] => [(name, value)]
  | (key, old) :: rest =>
    if name < key then (name, value) :: (key, old) :: rest
    else if key = name then (name, value) :: rest
    else (key, old) :: insertEntry name value rest

def insert {α : Type} (map : NameMap α) (name : String) (value : α) : NameMap α :=
  ⟨insertEntry name value map.entries⟩

/-- The map of a list of entries, of which later ones win. -/
def ofList {α : Type} (entries : List (String × α)) : NameMap α :=
  entries.foldl (fun map entry => map.insert entry.1 entry.2) empty

/-- The names in increasing order. -/
def names {α : Type} (map : NameMap α) : List String := map.entries.map (·.1)

def values {α : Type} (map : NameMap α) : List α := map.entries.map (·.2)

def size {α : Type} (map : NameMap α) : Nat := map.entries.length

end NameMap

end DensityGraph
