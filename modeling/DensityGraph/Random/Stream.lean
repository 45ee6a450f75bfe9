/-! # Streams of random words

A stream gives words of 64 bits one after another.  It either holds all its words, or makes them block by
block from a key by the ChaCha cipher with eight rounds, where a key and a block number give a block of sixteen
words of 32 bits; as blocks have numbers of 64 bits, every stream ends.  Words that a stream has left are
counted by `remaining`, which each word taken makes smaller.
-/

namespace DensityGraph.Random

abbrev Block := Vector UInt32 16

namespace ChaCha

/-- A word rotated to the left, by a number of bits that is not zero. -/
def rotate (word count : UInt32) : UInt32 := (word <<< count) ||| (word >>> (32 - count))

/-- One step of a quarter round: `a += b`, then `d ^= a`, then `d` rotated. -/
def mix (a b d : Fin 16) (count : UInt32) (block : Block) : Block :=
  let block := block.set a (block[a] + block[b])
  block.set d (rotate (block[d] ^^^ block[a]) count)

/-- The quarter round of four words. -/
def quarterRound (block : Block) (places : Fin 16 × Fin 16 × Fin 16 × Fin 16) : Block :=
  let (a, b, c, d) := places
  mix c d b 7 (mix a b d 8 (mix c d b 12 (mix a b d 16 block)))

/-- The quarter rounds of a double round: the columns, then the diagonals. -/
def doubleRound : List (Fin 16 × Fin 16 × Fin 16 × Fin 16) :=
  [(0, 4, 8, 12), (1, 5, 9, 13), (2, 6, 10, 14), (3, 7, 11, 15),
   (0, 5, 10, 15), (1, 6, 11, 12), (2, 7, 8, 13), (3, 4, 9, 14)]

/-- How often the double round is made. -/
def doubleRounds : Nat := 4

/-- The block before the rounds: constants, key, block number, zeros. -/
def start (key : Vector UInt32 8) (number : Nat) : Block :=
  #v[0x61707865, 0x3320646e, 0x79622d32, 0x6b206574,
    key[0], key[1], key[2], key[3], key[4], key[5], key[6], key[7],
    number.toUInt32, (number / 0x100000000).toUInt32, 0, 0]

def block (key : Vector UInt32 8) (number : Nat) : Block :=
  let first := start key number
  let mixed := (List.replicate doubleRounds doubleRound).flatten.foldl quarterRound first
  Vector.zipWith (· + ·) mixed first

end ChaCha

namespace Seed

/-- The next state of the generator that spreads a seed over a key. -/
def advance (state : UInt64) : UInt64 := state * 6364136223846793005 + 11634580027462260723

/-- The word that a state stands for: some of its bits, rotated to the right by its highest five. -/
def word (state : UInt64) : UInt32 :=
  let x := (((state >>> 18) ^^^ state) >>> 27).toUInt32
  let count := (state >>> 59).toUInt32
  if count = 0 then x else ChaCha.rotate x (32 - count)

def states (seed : UInt64) : Nat → List UInt64
  | 0 => []
  | n + 1 => advance seed :: states (advance seed) n

def key (seed : UInt64) : Vector UInt32 8 :=
  Vector.ofFn fun i => ((states seed 8)[i.val]?.map word).getD 0

end Seed

/-- A key and the number of the next block. -/
structure Generator where
  key : Vector UInt32 8
  number : Nat
  deriving DecidableEq

namespace Generator

/-- How many blocks a key has. -/
def limit : Nat := 0x10000000000000000

/-- The words of 64 bits in the next block, the low half of each first. -/
def words (generator : Generator) : List UInt64 :=
  let block := ChaCha.block generator.key generator.number
  (List.finRange 8).map fun i =>
    (block[2 * i.val + 1].toUInt64 <<< 32) ||| block[2 * i.val].toUInt64

theorem length_words (generator : Generator) : generator.words.length = 8 := by
  simp [words]

end Generator

/-- Words at hand and a generator of more. -/
structure Stream where
  pending : List UInt64
  generator? : Option Generator
  deriving DecidableEq

namespace Stream

def ofWords (words : List UInt64) : Stream := ⟨words, none⟩

def ofSeed (seed : UInt64) : Stream := ⟨[], some ⟨Seed.key seed, 0⟩⟩

/-- How many words the stream has left. -/
def remaining (stream : Stream) : Nat :=
  stream.pending.length + match stream.generator? with
    | none => 0
    | some generator => 8 * (Generator.limit - generator.number)

/-- The next word and the stream after it, unless the stream is used up. -/
def next? (stream : Stream) : Option (UInt64 × Stream) :=
  match stream.pending with
  | word :: rest => some (word, ⟨rest, stream.generator?⟩)
  | [] =>
    match stream.generator? with
    | none => none
    | some generator =>
      if generator.number < Generator.limit then
        match generator.words with
        | [] => none
        | word :: rest => some (word, ⟨rest, some ⟨generator.key, generator.number + 1⟩⟩)
      else none

theorem remaining_lt_of_next? {stream rest : Stream} {word : UInt64}
    (taken : stream.next? = some (word, rest)) : rest.remaining < stream.remaining := by
  unfold next? at taken
  split at taken
  next first others pending =>
    obtain ⟨rfl, rfl⟩ := by simpa using taken
    simp [remaining, pending]
  next pending =>
    split at taken
    · simp at taken
    next generator source =>
      split at taken
      next small =>
        have count := generator.length_words
        split at taken
        · simp at taken
        next first others words =>
          obtain ⟨rfl, rfl⟩ := by simpa using taken
          simp only [words, List.length_cons] at count
          simp only [remaining, pending, source, List.length_nil]
          omega
      · simp at taken

end Stream

end DensityGraph.Random
