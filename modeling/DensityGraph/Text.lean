/-! # Texts

Blanks, which are the characters that Unicode gives the property `White_Space`; tokens with the bytes in a text
at which they begin; and what a reader has left behind what it has read.
-/

namespace DensityGraph.Text

/-- A character with the property `White_Space`. -/
def isBlank (c : Char) : Bool :=
  let n := c.toNat
  (0x9 ≤ n && n ≤ 0xd) || n == 0x20 || n == 0x85 || n == 0xa0 || n == 0x1680 ||
    (0x2000 ≤ n && n ≤ 0x200a) || n == 0x2028 || n == 0x2029 || n == 0x202f || n == 0x205f || n == 0x3000

/-- A text without the blanks at its two ends. -/
def trim (text : String) : String :=
  String.ofList ((text.toList.dropWhile isBlank).reverse.dropWhile isBlank).reverse

/-- A text that holds nothing but blanks. -/
def allBlank (text : String) : Bool :=
  text.toList.all isBlank

/-- A thing and the byte offset at which it begins in its text. -/
structure Placed (α : Type) where
  value : α
  offset : Nat
  deriving DecidableEq, Repr

/-- The tokens of a text and the byte offset of its end. -/
structure Tokens (α : Type) where
  items : List (Placed α)
  ends : Nat
  deriving DecidableEq, Repr

/-- The offset of the first of some tokens, or of the end of the text if there are none. -/
def offsetOf {α : Type} (ends : Nat) : List (Placed α) → Nat
  | [] => ends
  | token :: _ => token.offset

/-- The number of bytes of a list of characters. -/
def byteLength (text : List Char) : Nat :=
  text.foldl (fun n c => n + c.utf8Size) 0

/-- Something read, with fewer than `bound` symbols left behind it. -/
structure Parsed (σ α : Type) (bound : Nat) where
  value : α
  rest : List σ
  shorter : rest.length < bound

namespace Parsed

/-- The same rest behind another value, under a greater bound. -/
def replace {σ α β : Type} {small large : Nat} (parsed : Parsed σ α small) (value : β)
    (h : small ≤ large) : Parsed σ β large :=
  ⟨value, parsed.rest, Nat.lt_of_lt_of_le parsed.shorter h⟩

/-- The same result under a greater bound. -/
def widen {σ α : Type} {small large : Nat} (parsed : Parsed σ α small) (h : small ≤ large) :
    Parsed σ α large :=
  parsed.replace parsed.value h

end Parsed

end DensityGraph.Text
