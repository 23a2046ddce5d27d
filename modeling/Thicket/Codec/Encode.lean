/-
  Writing counters as identifiers.

      <lead> <digits, lowest first> [ <end symbol> <filler> ]

  1. **Numeral** — the digits of the counter in the codec's base, lowest first, at least one.
  2. **Filler** — only an identifier that falls short of the minimum length gets the end symbol
     and then as much filler as it lacks.  Filler comes in blocks, each a permutation of the block
     before it, the first one of the turned alphabet; the last block is cut off where the
     identifier is full.  The permutation is fixed by the symbols alone and draws no randomness.
-/
import Thicket.Codec.Basic

namespace Thicket

namespace Codec

/-! ## Numerals -/

/-- The digits of a number, lowest first; zero has one digit. -/
def numeral (base : Nat) (h : 2 ≤ base) (n : Nat) : List (Fin base) :=
  ⟨n % base, Nat.mod_lt _ (by omega)⟩ ::
    if n / base = 0 then [] else numeral base h (n / base)
termination_by n
decreasing_by
  rename_i hquotient
  exact Nat.div_lt_self (Nat.pos_of_ne_zero fun hzero => hquotient (by simp [hzero])) h

/-! ## Filler -/

/-- Exchanges symbols from the front while a second position runs from the back down to one: the
    symbol at the front position `length - 1 - back` changes places with the one that both symbols
    and both positions point to. -/
def exchangeFrom {length : Nat} :
    (back : Nat) → back < length → Vector Char length → Vector Char length
  | 0, _, symbols => symbols
  | back + 1, h, symbols =>
    let front := length - 1 - (back + 1)
    have hfront : front < length := by
      have : front ≤ length - 1 := Nat.sub_le _ _
      omega
    let target := (front * (back + 1) + symbols[front].toNat + symbols[back + 1].toNat) % length
    have htarget : target < length := Nat.mod_lt _ (by omega)
    exchangeFrom back (by omega) (symbols.swap front target)

/-- The fixed permutation that gives each block of filler from the one before. -/
def nextBlock {length : Nat} (symbols : Vector Char length) : Vector Char length :=
  if h : 0 < length then exchangeFrom (length - 1) (by omega) symbols else symbols

/-- Exchanging symbols loses none and adds none. -/
theorem exchangeFrom_perm {length : Nat} :
    ∀ (back : Nat) (h : back < length) (symbols : Vector Char length),
      (exchangeFrom back h symbols).Perm symbols
  | 0, _, _ => Vector.Perm.rfl
  | back + 1, _, _ => (exchangeFrom_perm back _ _).trans (Vector.swap_perm _ _)

theorem nextBlock_perm {length : Nat} (symbols : Vector Char length) :
    (nextBlock symbols).Perm symbols := by
  unfold nextBlock
  split
  · exact exchangeFrom_perm _ _ _
  · exact Vector.Perm.rfl

/-- As many symbols of filler as are asked for, in blocks that follow the given one. -/
def filler {length : Nat} (h : 0 < length) (block : Vector Char length) (count : Nat) :
    List Char :=
  if count = 0 then []
  else
    let next := nextBlock block
    next.toList.take count ++ filler h next (count - length)
termination_by count

/-- There is as much filler as was asked for. -/
theorem length_filler {length : Nat} (h : 0 < length) (block : Vector Char length) (count : Nat) :
    (filler h block count).length = count := by
  fun_induction filler h block count with
  | case1 => rfl
  | case2 block count hcount next ih =>
    simp [ih]
    omega

/-! ## Identifiers -/

/-- The lead and the numeral of a counter. -/
def significant (codec : Codec) (counter : Nat) : List Char :=
  let turn := codec.turn counter
  codec.lead turn :: (numeral codec.base codec.two_le_base counter).map (codec.digit turn)

/-- The identifier of a counter, as characters. -/
def encodeChars (codec : Codec) (counter : Nat) : List Char :=
  let front := codec.significant counter
  if front.length < codec.minLength then
    let turn := codec.turn counter
    front ++ codec.endSymbol turn ::
      filler codec.size_pos (codec.turned turn) (codec.minLength - (front.length + 1))
  else front

/-- The identifier of a counter. -/
def encode (codec : Codec) (counter : UInt64) : String :=
  String.ofList (codec.encodeChars counter.toNat)

end Codec

end Thicket
