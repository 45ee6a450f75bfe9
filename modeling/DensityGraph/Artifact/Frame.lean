import DensityGraph.Bytes
import DensityGraph.Error
import DensityGraph.Json.Decode
import DensityGraph.Json.Reader
import DensityGraph.Json.Writer

/-! # Frames

An artifact is a header followed by one frame: the version of the frame, the number of bytes of the payload, the
payload, and its checksum.  Numbers have four bytes, the lowest first.  The payload is the text of a JSON value.

The checksum is the remainder of the bits of the payload, the lowest bit of each byte first, in the division by a
polynomial of degree 32 over the field of two elements.  The bits of a remainder stand in a word with the highest
power lowest.
-/

namespace DensityGraph.Artifact

/-- The polynomial without its leading term. -/
def polynomial : UInt32 := 0xEDB88320

/-- A remainder times the variable, reduced. -/
def shift (remainder : UInt32) : UInt32 :=
  if remainder &&& 1 = 1 then (remainder >>> 1) ^^^ polynomial else remainder >>> 1

def shifts : Nat → UInt32 → UInt32
  | 0, remainder => remainder
  | count + 1, remainder => shifts count (shift remainder)

def feed (remainder : UInt32) (byte : UInt8) : UInt32 := shifts 8 (remainder ^^^ byte.toUInt32)

/-- The checksum of some bytes.  The remainder starts with all bits set and is inverted at the end, so that zeros
in front and behind count. -/
def checksum (bytes : Bytes) : UInt32 := bytes.foldl feed 0xFFFFFFFF ^^^ 0xFFFFFFFF

/-- The bytes that begin an artifact. -/
def magic : Bytes := [0x4B, 0x4D, 0x44, 0x4C]

def formatVersion : UInt8 := 1

/-- The version of frames. -/
def codecVersion : UInt8 := 1

def maxPayload : Nat := 268435456

/-- What stands in front of the frame. -/
def header : Bytes := magic ++ [formatVersion]

/-- The bytes in front of and behind the payload in a frame. -/
def overhead : Nat := 9

def frame (payload : Bytes) : Bytes :=
  codecVersion :: Bytes.littleEndian 4 payload.length ++ payload ++
    Bytes.littleEndian 4 (checksum payload).toNat

def take (count : Nat) (bytes : Bytes) : Except FrameFault (Bytes × Bytes) :=
  match bytes.split? count with
  | some parts => .ok parts
  | none => .error .shortRead

def takeByte : Bytes → Except FrameFault (UInt8 × Bytes)
  | [] => .error .shortRead
  | b :: rest => .ok (b, rest)

/-- The payload of the frame that bytes begin with, and what follows the frame. -/
def unframe (bytes : Bytes) : Except FrameFault (Bytes × Bytes) := do
  let (version, bytes) ← takeByte bytes
  if version ≠ codecVersion then
    throw (.codecVersion codecVersion version)
  let (size, bytes) ← take 4 bytes
  if maxPayload < size.toNat then
    throw (.tooLong size.toNat maxPayload)
  let (payload, bytes) ← take size.toNat bytes
  let (stored, bytes) ← take 4 bytes
  let stored := UInt32.ofNat stored.toNat
  if stored ≠ checksum payload then
    throw (.checksum stored (checksum payload))
  return (payload, bytes)

/-- What follows the header that bytes begin with. -/
def readHeader (bytes : Bytes) : Except FrameFault Bytes := do
  let (found, bytes) ← take 4 bytes
  if found ≠ magic then
    throw (.magic magic found)
  let (version, bytes) ← takeByte bytes
  if version ≠ formatVersion then
    throw (.formatVersion formatVersion version)
  return bytes

end DensityGraph.Artifact

namespace DensityGraph.Json

def Refusal.reason? : Refusal → Option String
  | .form => none
  | .rule reason => some reason

/-- The value of some type that a document holds. -/
def Document.decode {α : Type} (decoder : Decoder α) (document : Document) : Except Refusal α := do
  let a ← decoder document.value
  if document.complete then return a else throw .form

/-- Reads bytes.  Bytes that spell no text are no JSON, as a null character is not. -/
def readBytes (bytes : Bytes) : Document :=
  match Text.decode bytes with
  | (text, true) => read text
  | (text, false) => read (text ++ ['\x00'])

end DensityGraph.Json

namespace DensityGraph.Artifact

/-- The payload that holds a value. -/
def payload (value : Json) : Bytes := Text.encode value.compact.toList

/-- The frame of a value.  One that is too long for a frame is refused before its bytes are made. -/
def encode (value : Json) : Except ModelError Bytes :=
  let size := value.compactSize
  if maxPayload < size then .error (.corrupt (.payloadTooLong size maxPayload))
  else .ok (frame (payload value))

/-- The value in the frame that bytes begin with, and what follows the frame. -/
def decode {α : Type} (decoder : Json.Decoder α) (bytes : Bytes) : Except FrameFault (α × Bytes) := do
  let (payload, rest) ← unframe bytes
  let value ← ((Json.readBytes payload).decode decoder).mapError fun refusal => .contents refusal.reason?
  return (value, rest)

end DensityGraph.Artifact
