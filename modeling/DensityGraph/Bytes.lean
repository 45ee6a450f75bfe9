/-! # Bytes

The contents of files: numbers of 32 bits as four bytes, the lowest first, and texts in UTF-8.
-/

namespace DensityGraph

abbrev Bytes := List UInt8

namespace Bytes

/-- The lowest `width` bytes of a number, the lowest first. -/
def littleEndian : (width : Nat) → Nat → Bytes
  | 0, _ => []
  | width + 1, n => UInt8.ofNat (n % 256) :: littleEndian width (n / 256)

/-- The number that bytes spell, the lowest first. -/
def toNat : Bytes → Nat
  | [] => 0
  | b :: rest => b.toNat + 256 * toNat rest

/-- The first bytes and those behind them, if there are enough. -/
def split? (count : Nat) (bytes : Bytes) : Option (Bytes × Bytes) :=
  if count ≤ bytes.length then some (bytes.take count, bytes.drop count) else none

end Bytes

namespace Text

def encode (text : List Char) : Bytes := text.flatMap String.utf8EncodeChar

/-- The characters that bytes spell from a place on, and whether they do so to the end; `before` are those in
front of the place, backwards. -/
def decodeFrom (bytes : ByteArray) (place : Nat) (before : List Char) : List Char × Bool :=
  if place < bytes.size then
    match bytes.utf8DecodeChar? place with
    | some c => decodeFrom bytes (place + c.utf8Size) (c :: before)
    | none => (before.reverse, false)
  else (before.reverse, true)
termination_by bytes.size - place
decreasing_by
  have := c.utf8Size_pos
  omega

/-- The characters that bytes spell, as far as they do, and whether they do so to the end. -/
def decode (bytes : Bytes) : List Char × Bool := decodeFrom ⟨bytes.toArray⟩ 0 []

end Text

end DensityGraph
