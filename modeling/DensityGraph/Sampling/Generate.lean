import DensityGraph.Composition.Variables
import DensityGraph.Dataset
import DensityGraph.Sampling.Draw

/-! # Generating data sets -/

namespace DensityGraph.Sampling

open DensityGraph.Random (Stream)

/-- Settings of the drawing. -/
structure Config where
  /-- how many numbers may fall outside the bounds of a parameter in a row -/
  maxAttempts : Nat
  deriving DecidableEq, BEq, Repr

namespace Config

/-- The settings if nothing is said. -/
def standard : Config := ⟨10000⟩

/-- At least one attempt is allowed. -/
def check (config : Config) : Except ModelError Unit :=
  if config.maxAttempts = 0 then .error (.config .noAttempts) else .ok ()

end Config

/-- Every observable is one that the density draws, and none is asked for twice. -/
def checkObservables (density : String) (generated seen : List String) :
    List String → Except ModelError Unit
  | [] => .ok ()
  | observable :: rest =>
    if !generated.contains observable then .error (.sampling (.notGenerated density observable))
    else if seen.contains observable then .error (.sampling (.requestedTwice observable))
    else checkObservables density generated (observable :: seen) rest

/-- The drawn values of the observables. -/
def rowOf (density : String) (drawn : Overrides) : List String → Except ModelError (List Float)
  | [] => .ok []
  | observable :: rest =>
    match drawn.lookup observable with
    | none => .error (.sampling (.notDrawn density observable))
    | some value =>
      match rowOf density drawn rest with
      | .error e => .error e
      | .ok values => .ok (value :: values)

/-- One observation, and the stream behind it. -/
def observation (table : Table) (attempts : Nat) (density : String) (observables : List String)
    (stream : Stream) : Except Stop (List Float × Stream) :=
  match (Draw.density table attempts density).run ⟨[], stream⟩ with
  | .error stop => .error stop
  | .ok ((), state) =>
    match rowOf density state.drawn observables with
    | .error e => .error (.error e)
    | .ok row => .ok (row, state.stream)

/-- A number of observations, and the stream behind them; `before` are those made, backwards. -/
def observations (table : Table) (attempts : Nat) (density : String) (observables : List String)
    (before : List (List Float)) : (count : Nat) → Stream → Except Stop (List (List Float) × Stream)
  | 0, stream => .ok (before.reverse, stream)
  | count + 1, stream =>
    match observation table attempts density observables stream with
    | .error stop => .error stop
    | .ok (row, rest) => observations table attempts density observables (row :: before) count rest

/-- What has to hold before anything is drawn. -/
def checkRequest (table : Table) (density : String) (observables : List String) (count : Nat)
    (config : Config) : Except ModelError Unit := do
  if count = 0 then
    throw (.invalidSampleCount count)
  config.check
  if (table.density density).toBool = false then
    throw (.sampling (.undeclared density))
  let generated ← table.generatedVariables density
  checkObservables density generated [] observables

/-- The name of a data set before it is renamed. -/
def datasetName (density : String) : String := density ++ "_data"

/-- How many bytes a row takes in the list of all rows, apart from its values. -/
def rowSize : Nat := 24

/-- How many rows there can be room for: no list takes more bytes than a signed number of 64 bits counts. -/
def maxRows : Nat := 0x7fffffffffffffff / rowSize

/-- A data set of `count` observations of the observables, and the stream behind it.  The room for all rows is
made before the first of them is drawn. -/
def generate (table : Table) (density : String) (observables : List String) (count : Nat)
    (config : Config) (stream : Stream) : Except Stop (Dataset × Stream) :=
  match checkRequest table density observables count config with
  | .error e => .error (.error e)
  | .ok () =>
    if maxRows < count then .error .rangeOverflow
    else
      match observations table config.maxAttempts density observables [] count stream with
      | .error stop => .error stop
      | .ok (rows, rest) => .ok (⟨datasetName density, observables, rows⟩, rest)

def generateSeeded (table : Table) (density : String) (observables : List String) (count : Nat)
    (config : Config) (seed : UInt64) : Except Stop Dataset :=
  (generate table density observables count config (Stream.ofSeed seed)).map (·.1)

end DensityGraph.Sampling
