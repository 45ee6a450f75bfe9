import DensityGraph.Json.Value

/-! # Reading values of documents

A decoder meets the fields and items of a value in the order of the document and stops at the first fault.
Records are objects with known keys, each of them once; other keys are skipped.  A record may also be an
array of the values of its keys in their order.
-/

namespace DensityGraph.Json

/-- Why a value is refused: it does not have the expected form, or a rule gives a reason. -/
inductive Refusal where
  | form
  | rule (reason : String)
  deriving DecidableEq, Repr

/-- Reads a value of some type. -/
abbrev Decoder (α : Type) := Json → Except Refusal α

namespace Decode

def string : Decoder String
  | .string text => .ok text
  | _ => .error .form

/-- A floating-point number, which may be written as a whole number. -/
def float : Decoder Float
  | .number n => if n.inRange then .ok n.toFloat else .error .form
  | _ => .error .form

def items {α : Type} (item : Decoder α) : List Json → Except Refusal (List α)
  | [] => .ok []
  | value :: rest =>
    match item value with
    | .error e => .error e
    | .ok a =>
      match items item rest with
      | .error e => .error e
      | .ok values => .ok (a :: values)

def list {α : Type} (item : Decoder α) : Decoder (List α)
  | .array values => items item values
  | _ => .error .form

def entries {α : Type} (item : Decoder α) : List (String × Json) → Except Refusal (List (String × α))
  | [] => .ok []
  | (key, value) :: rest =>
    match item value with
    | .error e => .error e
    | .ok a =>
      match entries item rest with
      | .error e => .error e
      | .ok values => .ok ((key, a) :: values)

/-- The entries of an object with any keys. -/
def map {α : Type} (item : Decoder α) : Decoder (List (String × α))
  | .object fields => entries item fields
  | _ => .error .form

/-- Meets fields in order: those with a known key change the state, at most once each, and the others need only
be JSON. -/
def fields {σ : Type} (known : List String) (step : σ → String → Json → Except Refusal σ) (seen : List String)
    (state : σ) : List (String × Json) → Except Refusal σ
  | [] => .ok state
  | (key, value) :: rest =>
    if known.contains key then
      if seen.contains key then .error .form
      else
        match step state key value with
        | .error e => .error e
        | .ok state => fields known step (key :: seen) state rest
    else if value.sound (fun _ => true) then fields known step seen state rest
    else .error .form

/-- A record with known keys, read into a state. -/
def record {σ : Type} (known : List String) (step : σ → String → Json → Except Refusal σ) (start : σ) :
    Decoder σ
  | .object given => fields known step [] start given
  | .array values =>
    match fields known step [] start (known.zip values) with
    | .error e => .error e
    | .ok state => if values.length ≤ known.length then .ok state else .error .form
  | _ => .error .form

/-- The value of a key that a record must have. -/
def required {α : Type} : Option α → Except Refusal α
  | some a => .ok a
  | none => .error .form

/-- One of some words. -/
def wordOf? (words : List String) : Json → Option String
  | .string word => if words.contains word then some word else none
  | _ => none

/-- One of some words, which may also be given by its place. -/
def wordOrPlaceOf? (words : List String) : Json → Option String
  | .number (.whole false place) => words[place]?
  | value => wordOf? words value

/-- The word under a key that says which kind of record a value is, and the rest of the value. -/
def tagged (key : String) (wordOf? : Json → Option String) : Decoder (String × Json)
  | .object given =>
    match given.filter fun field => field.1 == key with
    | [(_, tag)] =>
      match wordOf? tag with
      | some word => .ok (word, .object (given.filter fun field => field.1 != key))
      | none => .error .form
    | _ => .error .form
  | .array (tag :: rest) =>
    match wordOf? tag with
    | some word => .ok (word, .array rest)
    | none => .error .form
  | _ => .error .form

end Decode

/-- How deep a value may be nested, with all that it stands in. -/
def maxNesting : Nat := 127

/-- A value that is JSON throughout, with numbers in range and not nested too deep inside `depth` others. -/
def isWhole (depth : Nat) (value : Json) : Bool :=
  value.sound Number.inRange && decide (depth + value.nesting ≤ maxNesting)

end DensityGraph.Json
