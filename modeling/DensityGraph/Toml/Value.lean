import DensityGraph.Name

/-! # TOML values

A document is a table, which its lines build up entry by entry.  Which entries may still be added to a table
depends on how the table came to be.  What a value stands for is asked of it kind by kind.
-/

namespace DensityGraph

/-- How a table or a list of tables came to be. -/
inductive Toml.Origin where
  /-- it is written as a value, and complete -/
  | value
  /-- a header of its own opened it -/
  | header
  /-- headers of tables inside it passed through it -/
  | passing
  /-- keys with dots made it -/
  | dotted
  deriving DecidableEq, Repr

/-- A value of a document. -/
inductive Toml where
  | string (text : String)
  | integer (value : Int)
  | float (value : Float)
  | boolean (value : Bool)
  /-- a date, a time or both, of which nothing is kept -/
  | moment
  | array (origin : Toml.Origin) (items : List Toml)
  | table (origin : Toml.Origin) (entries : List (String × Toml))
  deriving Repr

namespace Toml

abbrev Entries := List (String × Toml)

/-- Keys with dots between them, and the value after the equals sign. -/
structure Assignment where
  path : List String
  key : String
  value : Toml

/-- The entries with another value for a key, which goes to the end if it is new. -/
def put (key : String) (value : Toml) : Entries → Entries
  | [] => [(key, value)]
  | (other, old) :: rest =>
    if other = key then (key, value) :: rest else (other, old) :: put key value rest

/-- Changes the table at the end of a path, making tables of the given origin on the way.  A list of tables stands
for its last table. -/
def update (made : Origin) (change : Origin → Entries → Option Entries) (origin : Origin) :
    List String → Entries → Option Entries
  | [], entries => change origin entries
  | key :: path, entries =>
    match entries.lookup key with
    | none => (update made change made path []).map fun inner => put key (.table made inner) entries
    | some (.table .value _) => none
    | some (.table .header inner) =>
      if made = .dotted then none
      else (update made change .header path inner).map fun inner => put key (.table .header inner) entries
    | some (.table origin inner) =>
      (update made change origin path inner).map fun inner => put key (.table origin inner) entries
    | some (.array .header items) =>
      match items.reverse with
      | .table _ inner :: before =>
        (update made change .header path inner).map fun inner =>
          put key (.array .header (.table .header inner :: before).reverse) entries
      | _ => none
    | some _ => none

/-- Adds the value of a key to the table at the end of a path of keys.  Only tables that such paths made may be
reached in this way. -/
def assign (entries : Entries) (a : Assignment) : Option Entries :=
  update .dotted (fun origin inner =>
    if !a.path.isEmpty && origin != .dotted then none
    else if (inner.lookup a.key).isSome then none
    else some (put a.key a.value inner)) .header a.path entries

/-- Adds values one after another. -/
def assignAll (entries : Entries) (assignments : List Assignment) : Option Entries :=
  assignments.foldlM assign entries

/-- The table at the end of a path, with the assignments that follow its header. -/
def openTable (entries : Entries) (path : List String) (key : String) (assignments : List Assignment) :
    Option Entries :=
  update .passing (fun _ outer => do
    let inner ← match outer.lookup key with
      | none => some []
      | some (.table .passing inner) => some inner
      | some _ => none
    return put key (.table .header (← assignAll inner assignments)) outer) .header path entries

/-- One more table in the list at the end of a path, with the assignments that follow its header. -/
def openItem (entries : Entries) (path : List String) (key : String) (assignments : List Assignment) :
    Option Entries :=
  update .passing (fun _ outer => do
    let items ← match outer.lookup key with
      | none => some []
      | some (.array .header items) => some items
      | some _ => none
    return put key (.array .header (items ++ [.table .header (← assignAll [] assignments)])) outer)
    .header path entries

end Toml

end DensityGraph

namespace DensityGraph.Toml

def string? : Toml → Option String
  | string text => some text
  | _ => none

def boolean? : Toml → Option Bool
  | boolean value => some value
  | _ => none

def below? (limit : Nat) : Toml → Option Nat
  | integer value => if 0 ≤ value && value < limit then some value.toNat else none
  | _ => none

def limit32 : Nat := 0x100000000

def limit64 : Nat := 0x10000000000000000

/-- A floating-point number, which may be written as an integer. -/
def float? : Toml → Option Float
  | float value => some value
  | integer value =>
    let magnitude : Float := Float.ofScientific value.natAbs false 0
    some (if value < 0 then -magnitude else magnitude)
  | _ => none

def list? {α : Type} (item : Toml → Option α) : Toml → Option (List α)
  | array _ items => items.mapM item
  | _ => none

def map? {α : Type} (item : Toml → Option α) : Toml → Option (NameMap α)
  | table _ entries =>
    (entries.mapM fun entry => (item entry.2).map fun a => (entry.1, a)).map NameMap.ofList
  | _ => none

/-- The values of a record with known keys: a table, a list of the values in order, or a moment, which has none
of them. -/
def record? (keys : List String) : Toml → Option Entries
  | table _ entries => some entries
  | array _ items => some (keys.zip items)
  | moment => some []
  | _ => none

/-- The value of a key that a record must have. -/
def field? {α : Type} (entries : Entries) (key : String) (item : Toml → Option α) : Option α :=
  (entries.lookup key).bind item

/-- The value of a key that a record may have. -/
def fieldOr? {α : Type} (entries : Entries) (key : String) (item : Toml → Option α) (standard : α) : Option α :=
  match entries.lookup key with
  | none => some standard
  | some value => item value

end DensityGraph.Toml
