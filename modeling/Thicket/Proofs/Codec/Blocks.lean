/-
  The blocks of filler.

  An identifier that falls short of the minimum length is filled up behind its end symbol.  Each
  block of filler is made from the one before it by an exchange whose targets depend on the
  symbols themselves, so that filler looks drawn and yet is fixed by the alphabet.

  1. **The exchange** — two positions run towards each other, and each time the front symbol
     changes places with one that both symbols and both positions point to.  Wherever they point
     to, the remainder brings it into the block, so no access ever fails and no symbol is lost
     (`exchangeBy_keeps`).  That needs nothing of the sum: it may be the sum itself, and then what
     comes out is the next block of the filler (`permuteBy_eq_ok`), or what a word keeps of it.
  2. **The filler** — each block is the one before it in another order, so each has all symbols of
     the alphabet once; only the last one is cut off (`filler_cut`).  It is cut off from a list
     without repetitions, so it has none either.

  Behind the end symbol of an identifier there is such filler (`filler_in_blocks`).  The end
  symbol stands nowhere before it (`endSymbol_not_mem_significant`), which is how a reader finds
  where the filler begins.
-/
import Thicket.Proofs.Codec.Checked
import Mathlib.Data.List.Perm.Subperm

namespace Thicket

namespace Checked

/-! ## The exchange

  What the positions and symbols point to is left open here.  The block may have any length but
  zero: with one symbol the second position starts at zero and nothing is exchanged. -/

/-- Exchanges symbols while one position runs up from `front` and another one down to zero.  What
    two positions and the symbols there point to is a parameter; every access is checked. -/
def exchangeBy (pointer : Nat → Nat → Char → Char → Nat) (symbols : Array Char) (front : Nat) :
    Nat → Except Breach (Array Char)
  | 0 => pure symbols
  | back + 1 => do
    let first ← index symbols front
    let second ← index symbols (back + 1)
    let target ← remainder (pointer front (back + 1) first second) symbols.size
    let symbols ← swap symbols front target
    exchangeBy pointer symbols (front + 1) back

/-- Exchanges symbols from both ends of a block. -/
def permuteBy (pointer : Nat → Nat → Char → Char → Nat) (symbols : Array Char) :
    Except Breach (Array Char) := do
  let last ← difference symbols.size 1
  exchangeBy pointer symbols 0 last

/-- The sum that the filler of identifiers goes by. -/
def pointerSum (front back : Nat) (first second : Char) : Nat :=
  front * back + first.toNat + second.toNat

/-- **No access fails and no symbol is lost**, as long as the two positions together stay inside. -/
theorem exchangeBy_keeps (pointer : Nat → Nat → Char → Char → Nat) (back : Nat)
    {symbols : Array Char} {front : Nat} (h : front + back < symbols.size) :
    ∃ permuted, exchangeBy pointer symbols front back = .ok permuted ∧ permuted.Perm symbols := by
  -- one position goes up when the other one goes down, so their sum is the same at every step
  induction back generalizing symbols front with
  | zero => exact ⟨symbols, rfl, Array.Perm.refl _⟩
  | succ back ih =>
    have hfront : front < symbols.size := by omega
    have hback : back + 1 < symbols.size := by omega
    have hsize : symbols.size ≠ 0 := by omega
    let target := pointer front (back + 1) symbols[front] symbols[back + 1] % symbols.size
    have htarget : target < symbols.size := Nat.mod_lt _ (Nat.pos_of_ne_zero hsize)
    have hinside : front + 1 + back < (symbols.swap front target hfront htarget).size := by
      rw [Array.size_swap]
      omega
    obtain ⟨permuted, hrest, hperm⟩ := ih hinside
    refine ⟨permuted, ?_, hperm.trans (Array.swap_perm hfront htarget)⟩
    rw [exchangeBy, bind_ok (index_eq_ok hfront), bind_ok (index_eq_ok hback),
      bind_ok (remainder_eq_ok hsize), bind_ok (swap_eq_ok hfront htarget), hrest]

/-- From both ends of a block that has a symbol, the two positions together stay inside. -/
theorem permuteBy_keeps (pointer : Nat → Nat → Char → Char → Nat) {symbols : Array Char}
    (h : 0 < symbols.size) :
    ∃ permuted, permuteBy pointer symbols = .ok permuted ∧ permuted.Perm symbols := by
  rw [permuteBy, bind_ok (difference_eq_ok h)]
  exact exchangeBy_keeps pointer _ (by omega)

/-- Pointed by the sum the checked exchange does the same as the one on vectors, where the
    bounds are part of the type.  What is left to run is the second position; the first one is
    known from it. -/
theorem exchangeBy_eq_ok {length : Nat} (back : Nat) (h : back < length)
    (symbols : Vector Char length) :
    exchangeBy pointerSum symbols.toArray (length - 1 - back) back =
      .ok (Codec.exchangeFrom back h symbols).toArray := by
  induction back generalizing symbols with
  | zero => rfl
  | succ back ih =>
    have hsize : symbols.toArray.size = length := symbols.size_toArray
    have hfront : length - 1 - (back + 1) < symbols.toArray.size := by omega
    have hback : back + 1 < symbols.toArray.size := by omega
    have htarget : pointerSum (length - 1 - (back + 1)) (back + 1)
        symbols.toArray[length - 1 - (back + 1)] symbols.toArray[back + 1] % length <
          symbols.toArray.size := by
      rw [hsize]
      exact Nat.mod_lt _ (by omega)
    rw [exchangeBy, bind_ok (index_eq_ok hfront), bind_ok (index_eq_ok hback), hsize,
      bind_ok (remainder_eq_ok (by omega)), bind_ok (swap_eq_ok hfront htarget),
      show length - 1 - (back + 1) + 1 = length - 1 - back by omega]
    rw [hsize] at hfront htarget
    exact ih (by omega) (symbols.swap _ _ hfront htarget)

/-- **Pointed by the sum, the exchange gives the next block of filler**, however long the block
    is. -/
theorem permuteBy_eq_ok {length : Nat} (h : 0 < length) (symbols : Vector Char length) :
    permuteBy pointerSum symbols.toArray = .ok (Codec.nextBlock symbols).toArray := by
  have hexchange := exchangeBy_eq_ok (length - 1) (by omega) symbols
  rw [Nat.sub_self] at hexchange
  rw [permuteBy, bind_ok (difference_eq_ok (by rw [symbols.size_toArray]; omega)),
    symbols.size_toArray, hexchange, Codec.nextBlock, dif_pos h]

end Checked

namespace Codec

/-! ## The filler

  What is filled in is a whole number of blocks and a rest.  The rest may be empty, and is so
  where the minimum length is met with a block. -/

/-- The text is cut into blocks, each of them all the symbols in some order, and a rest that is too
    short for a block and has no symbol twice. -/
structure Cut (symbols text : List Char) (blocks : List (List Char)) (rest : List Char) : Prop where
  text_eq : text = blocks.flatten ++ rest
  perm : ∀ block ∈ blocks, block.Perm symbols
  rest_length : rest.length < symbols.length
  rest_nodup : rest.Nodup
  rest_subset : rest ⊆ symbols

/-- **Filler that follows a block of some symbols is cut into blocks of these symbols.** -/
theorem filler_cut {length : Nat} (hlength : 0 < length) {symbols : List Char}
    (hnodup : symbols.Nodup) {block : Vector Char length} (h : block.toList.Perm symbols)
    (count : Nat) : ∃ blocks rest, Cut symbols (filler hlength block count) blocks rest := by
  have hsize : symbols.length = length := by rw [← h.length_eq, Vector.length_toList]
  -- along the filling: a whole block is taken as long as there is room for one
  induction block, count using filler.induct hlength with
  | case1 block =>
    rw [filler, if_pos rfl]
    exact ⟨[], [], rfl, by simp, by simpa [hsize] using hlength, List.nodup_nil,
      List.nil_subset _⟩
  | case2 block count hcount next ih =>
    have hnext : (nextBlock block).toList.Perm symbols := (nextBlock_perm block).toList.trans h
    have hfiller : filler hlength block count =
        (nextBlock block).toList.take count ++
          filler hlength (nextBlock block) (count - length) := by
      rw [filler, if_neg hcount]
    rw [hfiller]
    rcases Nat.lt_or_ge count length with hshort | hlong
    · -- the last block is cut off, and nothing follows it
      rw [Nat.sub_eq_zero_of_le (Nat.le_of_lt hshort), filler.eq_def hlength _ 0, if_pos rfl,
        List.append_nil]
      refine ⟨[], _, rfl, by simp, ?_, ?_, ?_⟩
      · rw [List.length_take, hsize]
        omega
      · exact (hnext.nodup_iff.2 hnodup).sublist (List.take_sublist ..)
      · intro c hc
        exact hnext.subset (List.mem_of_mem_take hc)
    · obtain ⟨blocks, rest, hcut⟩ := ih hnext
      have htake : (nextBlock block).toList.take count = (nextBlock block).toList :=
        List.take_of_length_le (by rw [Vector.length_toList]; exact hlong)
      refine ⟨(nextBlock block).toList :: blocks, rest, ?_, ?_, hcut.rest_length, hcut.rest_nodup,
        hcut.rest_subset⟩
      · rw [htake, hcut.text_eq, List.flatten_cons, List.append_assoc]
      · exact List.forall_mem_cons.2 ⟨hnext, hcut.perm⟩

variable {codec : Codec}

/-- The turned alphabet is the alphabet in another order. -/
theorem turned_perm (codec : Codec) (turn : Nat) :
    (codec.turned turn).toList.Perm codec.symbols.toList := by
  have hsubset : (codec.turned turn).toList ⊆ codec.symbols.toList := by
    intro c hc
    exact Vector.mem_toList_iff.2 (mem_of_mem_turned (Vector.mem_toList_iff.1 hc))
  refine ((codec.turned_nodup turn).subperm hsubset).perm_of_length_le ?_
  rw [Vector.length_toList, Vector.length_toList]

/-- The lead is the last of the digits, and so it is not the end symbol either. -/
theorem lead_ne_endSymbol (codec : Codec) (turn : Nat) :
    codec.lead turn ≠ codec.endSymbol turn := by
  have hbase := codec.two_le_base
  have hlast : codec.lead turn = codec.digit turn ⟨codec.base - 1, by omega⟩ := by
    have hplace : 1 + (codec.base - 1) = codec.size - 1 := by
      rw [base] at hbase ⊢
      omega
    simp only [lead, digit, hplace]
  rw [hlast]
  exact codec.digit_ne_endSymbol turn _

/-- The end symbol stands behind lead and digits for the first time. -/
theorem endSymbol_not_mem_significant (codec : Codec) (counter : Nat) :
    codec.endSymbol (codec.turn counter) ∉ codec.significant counter := by
  intro hmem
  rcases List.mem_cons.1 hmem with hlead | hdigit
  · exact codec.lead_ne_endSymbol _ hlead.symm
  · obtain ⟨d, -, hd⟩ := List.mem_map.1 hdigit
    exact codec.digit_ne_endSymbol _ d hd

/-- An identifier that is filled up has its filler behind the end symbol. -/
theorem encode_cut {counter : UInt64}
    (h : (codec.significant counter.toNat).length < codec.minLength) :
    ∃ filler blocks rest,
      (codec.encode counter).toList = codec.significant counter.toNat ++
        codec.endSymbol (codec.turn counter.toNat) :: filler ∧
      Cut codec.symbols.toList filler blocks rest := by
  -- the end symbol takes one of the places that lead and digits leave free
  obtain ⟨blocks, rest, hcut⟩ := filler_cut codec.size_pos codec.distinct
    (codec.turned_perm (codec.turn counter.toNat))
    (codec.minLength - ((codec.significant counter.toNat).length + 1))
  refine ⟨_, blocks, rest, ?_, hcut⟩
  rw [encode, String.toList_ofList, encodeChars]
  exact if_pos h

/-- **Filler stands in blocks, and no block loses a symbol.**  The exchange that makes a block
    from the one before it accesses nothing outside it and only changes the order, for every block
    with a symbol in it; and that holds whatever the positions and symbols point to, be it their
    sum or what a word keeps of it.  So behind the end symbol of an identifier that is filled up
    there are blocks as long as the alphabet with all its symbols, each once, and then a part of
    such a block, if any, that has no symbol twice. -/
theorem filler_in_blocks :
    (∀ (pointer : Nat → Nat → Char → Char → Nat) (symbols : Array Char), 0 < symbols.size →
      ∃ permuted, Checked.permuteBy pointer symbols = .ok permuted ∧ permuted.Perm symbols) ∧
    (∀ (length : Nat) (symbols : Vector Char length), 0 < length →
      Checked.permuteBy Checked.pointerSum symbols.toArray = .ok (nextBlock symbols).toArray) ∧
    ∀ (codec : Codec) (counter : UInt64),
      (codec.significant counter.toNat).length < codec.minLength →
      ∃ filler blocks rest,
        (codec.encode counter).toList = codec.significant counter.toNat ++
          codec.endSymbol (codec.turn counter.toNat) :: filler ∧
        codec.endSymbol (codec.turn counter.toNat) ∉ codec.significant counter.toNat ∧
        Cut codec.symbols.toList filler blocks rest := by
  refine ⟨fun pointer symbols h => Checked.permuteBy_keeps pointer h,
    fun length symbols h => Checked.permuteBy_eq_ok h symbols, ?_⟩
  intro codec counter h
  obtain ⟨filler, blocks, rest, htext, hcut⟩ := encode_cut h
  exact ⟨filler, blocks, rest, htext, codec.endSymbol_not_mem_significant _, hcut⟩

/-- Over the alphabet `bac` five is written with three digits.  In an identifier of nine symbols
    they are followed by the end symbol, a whole block and one symbol more. -/
theorem bac_filler_in_blocks :
    0 < #['b', 'a', 'c'].size ∧ (0 : Nat) < 3 ∧
    (∃ permuted, Checked.permuteBy Checked.pointerSum #['b', 'a', 'c'] = .ok permuted ∧
      permuted.Perm #['b', 'a', 'c']) ∧
    Checked.permuteBy Checked.pointerSum #v['b', 'a', 'c'].toArray =
      .ok (nextBlock #v['b', 'a', 'c']).toArray ∧
    ∃ codec, ofSymbols? #['b', 'a', 'c'] 9 = .ok codec ∧
      (codec.significant (5 : UInt64).toNat).length < codec.minLength ∧
      (codec.encode 5).length = 9 ∧
      ∃ filler blocks rest,
        (codec.encode 5).toList = codec.significant (5 : UInt64).toNat ++
          codec.endSymbol (codec.turn (5 : UInt64).toNat) :: filler ∧
        codec.endSymbol (codec.turn (5 : UInt64).toNat) ∉ codec.significant (5 : UInt64).toNat ∧
        Cut codec.symbols.toList filler blocks rest := by
  obtain ⟨hkeeps, hnext, hcut⟩ := filler_in_blocks
  have hshown : ((ofSymbols? #['b', 'a', 'c'] 9).toOption.map fun codec =>
      decide ((codec.significant (5 : UInt64).toNat).length < codec.minLength ∧
        (codec.encode 5).length = 9)) = some true := by decide +kernel
  refine ⟨by decide, by decide, hkeeps _ _ (by decide), hnext _ _ (by decide), ?_⟩
  cases hcodec : ofSymbols? #['b', 'a', 'c'] 9 with
  | error fault =>
    rw [hcodec] at hshown
    cases hshown
  | ok codec =>
    rw [hcodec] at hshown
    obtain ⟨hpadded, hlength⟩ := of_decide_eq_true (Option.some.inj hshown)
    exact ⟨codec, rfl, hpadded, hlength, hcut codec 5 hpadded⟩

end Codec

end Thicket
