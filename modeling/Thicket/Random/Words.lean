/-
  Sources of random words.

  1. **`WordSource`** — all that the draws ask of their source: a state that gives one 32-bit word
     and the state after it.  Whatever is said of a draw is said for every such source.
  2. **`KeyStream`** — the source that programs run on: a ChaCha stream of twelve rounds under a
     zero nonce.  The state is a position in that stream; the words of a block are handed out in
     order, the blocks follow each other in order, and nothing is skipped.
  3. **Seeding** — a 64-bit seed is stretched to a 256-bit key by eight steps of a linear
     congruential generator, each step's state being mixed down to one key word.
-/
namespace Thicket

/-- A source of 32-bit words. -/
class WordSource (σ : Type) where
  /-- The next word, and the state after it. -/
  next : σ → UInt32 × σ

/-! ## The key stream -/

/-- A position in a key stream: the key, the number of the next block to compute, and what is left
    of the block before it. -/
structure KeyStream where
  key : Vector UInt32 8
  block : UInt64
  pending : List UInt32
deriving DecidableEq, Repr

namespace KeyStream

/-- A word turned left. -/
def rotateLeft (w : UInt32) (places : UInt32) : UInt32 :=
  (w <<< places) ||| (w >>> (32 - places))

/-- The block state: a square of sixteen words. -/
abbrev Square := Vector UInt32 16

/-- Adds word `b` to word `a`, and turns what that changes of word `d` by some places. -/
def stir (a b d : Fin 16) (places : UInt32) (s : Square) : Square :=
  let s := s.set a (s[a] + s[b])
  s.set d (rotateLeft (s[d] ^^^ s[a]) places)

/-- The quarter round on four words of the square. -/
def quarterRound (a b c d : Fin 16) (s : Square) : Square :=
  stir c d b 7 (stir a b d 8 (stir c d b 12 (stir a b d 16 s)))

/-- A round over the columns followed by a round over the diagonals. -/
def doubleRound (s : Square) : Square :=
  let s := quarterRound 0 4 8 12 s
  let s := quarterRound 1 5 9 13 s
  let s := quarterRound 2 6 10 14 s
  let s := quarterRound 3 7 11 15 s
  let s := quarterRound 0 5 10 15 s
  let s := quarterRound 1 6 11 12 s
  let s := quarterRound 2 7 8 13 s
  quarterRound 3 4 9 14 s

/-- The square a block starts from: four constant words, the key, the block number (low word first)
    and the zero nonce. -/
def start (key : Vector UInt32 8) (block : UInt64) : Square :=
  (#v[0x61707865, 0x3320646e, 0x79622d32, 0x6b206574] : Vector UInt32 4) ++ key
    ++ #v[block.toUInt32, (block >>> 32).toUInt32, 0, 0]

/-- The words of one block: twelve rounds over the start square, added to it word by word. -/
def blockWords (key : Vector UInt32 8) (block : UInt64) : List UInt32 :=
  let first := start key block
  ((Nat.repeat doubleRound 6 first).zipWith (· + ·) first).toList

/-- The next word of the stream; a fresh block is computed when the one before is used up. -/
def next (s : KeyStream) : UInt32 × KeyStream :=
  match s.pending with
  | w :: rest => (w, { s with pending := rest })
  | [] =>
    match blockWords s.key s.block with
    | w :: rest => (w, { s with block := s.block + 1, pending := rest })
    | [] => (0, s)

/-! ## Seeding -/

/-- One step of the generator that stretches a seed. -/
def stretch (s : UInt64) : UInt64 := s * 6364136223846793005 + 11634580027462260723

/-- A state of that generator mixed down to one word: its high bits are folded together and turned
    right by the topmost five. -/
def mix (s : UInt64) : UInt32 :=
  let folded := (((s >>> 18) ^^^ s) >>> 27).toUInt32
  let places := (s >>> 59).toUInt32
  rotateLeft folded ((32 - places) % 32)

/-- The stream that belongs to a seed, at its beginning. -/
def ofSeed (seed : UInt64) : KeyStream where
  key := Vector.ofFn fun i => mix (Nat.repeat stretch (i.val + 1) seed)
  block := 0
  pending := []

instance : WordSource KeyStream := ⟨next⟩

end KeyStream

/-! ## Small checks -/

/-- A block has sixteen words, so a stream never ends. -/
theorem KeyStream.length_blockWords (key : Vector UInt32 8) (block : UInt64) :
    (KeyStream.blockWords key block).length = 16 := by
  simp [KeyStream.blockWords]

end Thicket
