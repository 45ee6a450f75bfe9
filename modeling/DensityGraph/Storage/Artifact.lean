import DensityGraph.Artifact.Frame
import DensityGraph.Storage.Writer

/-! # Values in files

A value is stored as an artifact, under settings that bound its size.
-/

namespace DensityGraph

/-- Settings of the storing of values. -/
structure StorageConfig where
  /-- a file is forced to the disk before it takes its place -/
  syncOnWrite : Bool
  /-- the greatest number of bytes in the document that is saved -/
  maxSize : Nat
  deriving DecidableEq, BEq, Repr

namespace StorageConfig

/-- The least `maxSize` that can be set. -/
def minLimit : Nat := 4096

/-- The greatest `maxSize` that can be set, which is the greatest frame that is read. -/
def maxLimit : Nat := Artifact.maxPayload

def standard : StorageConfig := ⟨true, maxLimit⟩

/-- The limit lies between the two that can be set. -/
def check (config : StorageConfig) : Except ModelError Unit :=
  if config.maxSize < minLimit then .error (.config (.sizeTooSmall minLimit config.maxSize))
  else if maxLimit < config.maxSize then .error (.config (.sizeTooLarge maxLimit config.maxSize))
  else .ok ()

end StorageConfig

namespace Storage

/-- The frame of a value that is to be written to a path, if it is not too long. -/
def frameFor (config : StorageConfig) (path : String) (value : Json) : Except ModelError Bytes := do
  config.check
  let frame ← Artifact.encode value
  let size := frame.length - Artifact.overhead
  if config.maxSize < size then
    throw (.file .write path (.tooLarge size config.maxSize))
  return frame

/-- Writes a value to a path, and gives the number of bytes written. -/
def save (attempt : Attempt) (config : StorageConfig) (directory : Directory) (path : String) (value : Json) :
    Except ModelError Nat × Directory :=
  match frameFor config path value with
  | .error e => (.error e, directory)
  | .ok frame =>
    match replace attempt directory path config.syncOnWrite frame with
    | (.error cause, directory) => (.error (.file .write path cause), directory)
    | (.ok (), directory) => (.ok (Artifact.header.length + frame.length), directory)

/-- The value in the contents of an artifact, of which nothing may be left. -/
def valueOf {α : Type} (decoder : Json.Decoder α) (path : String) (bytes : Bytes) : Except ModelError α := do
  let corrupt (fault : FrameFault) : ModelError := .corrupt (.frame path fault)
  let bytes ← (Artifact.readHeader bytes).mapError corrupt
  let (value, rest) ← (Artifact.decode decoder bytes).mapError corrupt
  if !rest.isEmpty then
    throw (.corrupt (.trailingBytes path))
  return value

def contents (directory : Directory) (path : String) : Except ModelError Bytes := do
  let location ← (directory.openable path).mapError (.file .openFile path)
  (directory.contents location).mapError (.file .read path)

end Storage

end DensityGraph
