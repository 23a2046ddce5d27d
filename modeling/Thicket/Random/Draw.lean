/-
  Draws from a word source.

  A draw is a step from one state of the source to another.  It can go wrong in two ways only: the
  caller asks for a number from an empty range, which is refused before any word is taken, or the
  source keeps giving words that have to be rejected and the caller's patience runs out.

  1. **Words** — 32 bits, and 64 bits from two words, the low half first.
  2. **Acceptance** — `accept?` turns a word of `width` bits into a number below `range`.  The word
     times the range, divided by `2 ^ width`, is the answer; it counts only if the remainder is
     at most the zone, which makes the accepted words of every answer equally many.
  3. **Numbers** — `between` and `index` redraw until a word is accepted; `unit` never rejects.
  4. **Bytes, shuffles and choices**.
-/
import Thicket.Number.Binary64
import Thicket.Random.Words

namespace Thicket

/-- Why a draw, or a step that needs one, came to nothing. -/
inductive Mishap where
  /-- A number from an empty range was asked for. -/
  | emptyRange
  /-- No more is to be had: too many draws in a row were rejected, or a counter has run out. -/
  | stalled
deriving DecidableEq, Repr

/-- A computation that takes words from a source. -/
abbrev Draw (σ : Type) := EStateM Mishap σ

namespace Draw

variable {σ : Type} [WordSource σ]

/-! ## Words -/

/-- One word. -/
def word : Draw σ UInt32 := fun s =>
  let (w, s) := WordSource.next s
  .ok w s

/-- Two words as one number, the first being the low half. -/
def doubleWord : Draw σ UInt64 := do
  let low ← word
  let high ← word
  pure ((high.toUInt64 <<< 32) ||| low.toUInt64)

/-! ## Acceptance -/

/-- The greatest remainder that is accepted: the range shifted up until its top bit is the top bit
    of a word, less one. -/
def zone (width range : Nat) : Nat := range * 2 ^ (width - 1 - range.log2) - 1

theorem answer_lt {width range v : Nat} (hv : v < 2 ^ width) (hr : 0 < range) :
    v * range / 2 ^ width < range := by
  apply Nat.div_lt_of_lt_mul
  exact Nat.mul_lt_mul_of_pos_right hv hr

/-- The number below `range` that a word of `width` bits stands for, unless the word is rejected. -/
def accept? (width range v : Nat) (hv : v < 2 ^ width) (hr : 0 < range) : Option (Fin range) :=
  if v * range % 2 ^ width ≤ zone width range then
    some ⟨v * range / 2 ^ width, answer_lt hv hr⟩
  else none

/-! ## Redrawing -/

/-- Repeats an attempt until it gives something, at most as often as patience allows. -/
def retry {ε τ α : Type} (giveUp : ε) (attempt : EStateM ε τ (Option α)) : Nat → EStateM ε τ α
  | 0 => throw giveUp
  | patience + 1 => do
    match ← attempt with
    | some a => pure a
    | none => retry giveUp attempt patience

/-! ## Numbers -/

/-- A number below a range that fits into 64 bits. -/
def below64 (patience range : Nat) (hr : 0 < range) : Draw σ (Fin range) :=
  retry .stalled (do
    let v ← doubleWord
    pure (accept? 64 range v.toNat v.toNat_lt hr)) patience

/-- A number below a range that fits into 32 bits. -/
def below32 (patience range : Nat) (hr : 0 < range) : Draw σ (Fin range) :=
  retry .stalled (do
    let v ← word
    pure (accept? 32 range v.toNat v.toNat_lt hr)) patience

/-- A number from the closed range; the range of all 64-bit numbers takes every double word as it
    is. -/
def between (patience : Nat) (low high : UInt64) : Draw σ UInt64 :=
  if high < low then throw .emptyRange
  else
    let range := high.toNat - low.toNat + 1
    if range = 2 ^ 64 then doubleWord
    else do
      let offset ← below64 patience range (Nat.succ_pos _)
      pure (low + UInt64.ofNat offset.val)

/-- A position in a sequence of the given length; lengths beyond 32 bits take double words. -/
def index (patience length : Nat) (h : 0 < length) : Draw σ (Fin length) :=
  if length < 2 ^ 32 then below32 patience length h else below64 patience length h

/-- A number from `[0, 1)`: the top 52 bits of a double word, over `2 ^ 52`. -/
def unit : Draw σ Binary64.Sample := do
  let v ← doubleWord
  pure ⟨v.toNat / 2 ^ 12, by have := v.toNat_lt; omega⟩

/-! ## Bytes -/

/-- The four bytes of a word, lowest first. -/
def wordBytes (w : UInt32) : List UInt8 :=
  [w.toUInt8, (w >>> 8).toUInt8, (w >>> 16).toUInt8, (w >>> 24).toUInt8]

/-- Puts the bytes of some words behind those there are. -/
def pushWords : Nat → ByteArray → Draw σ ByteArray
  | 0, bytes => pure bytes
  | count + 1, bytes => do
    let w ← word
    pushWords count ((wordBytes w).foldl ByteArray.push bytes)

/-- A run of bytes, from as few whole words as it needs. -/
def bytes (length : Nat) : Draw σ ByteArray := do
  let drawn ← pushWords ((length + 3) / 4) .empty
  pure (drawn.extract 0 length)

/-! ## Shuffles and choices -/

/-- Shuffles the places up to the given one: the last of them changes places with one drawn from
    all of them, then the rest is shuffled. -/
def shuffleUpTo {α : Type} {n : Nat} (patience : Nat) :
    (last : Nat) → last < n → Vector α n → Draw σ (Vector α n)
  | 0, _, items => pure items
  | last + 1, h, items => do
    let other ← index patience (last + 2) (Nat.succ_pos _)
    shuffleUpTo patience last (by omega) (items.swap (last + 1) other.val h (by omega))

/-- All items in a random order. -/
def shuffle {α : Type} (patience : Nat) (items : Array α) : Draw σ (Array α) :=
  if h : 0 < items.size then do
    let shuffled ← shuffleUpTo patience (items.size - 1) (by omega) items.toVector
    pure shuffled.toArray
  else pure items

/-- One of the items; none, and no word taken, if there are none. -/
def choose {α : Type} (patience : Nat) (items : Array α) : Draw σ (Option α) :=
  if h : 0 < items.size then do
    let place ← index patience items.size h
    pure (some items[place])
  else pure none

end Draw

end Thicket
