/-
  Writing identifiers with every step checked.

  Here an identifier is written on a plain array, the way a machine does it: every index is compared
  with the length, every divisor and every difference with zero, every sum and product with the
  size of a word, and every loop has to come closer to its end.  What fails a check is a breach.

  For the alphabet of a codec nothing ever fails (`Checked.encode_eq_ok`), and what is written is
  the identifier.  Three facts go into that:

  1. **There are digits to divide by**, as the alphabet has at least three symbols, one of which
     ends a number.
  2. **Positions stay inside**, as those that run towards each other from both ends have a sum
     that does not change.
  3. **Sums stay small**, as an alphabet of different letters and digits has sixty-two of them at
     most (`size_le`), so positions are below that and so are their products below its square.

  The checked definitions are written anew and not derived from the others, for in those the
  bounds are part of the types and there would be nothing left to check.  Each has one lemma that
  says it comes to the same, and the lemmas follow the definitions step by step: `bind_ok` takes
  off one step, and the lemma of that step says why it did not fail.
-/
import Thicket.Codec.Shuffled
import Thicket.Proofs.Codec.Symbols

namespace Thicket

/-- What a machine must not be asked for. -/
inductive Breach where
  /-- A number from a range that is empty. -/
  | emptyRange
  /-- An element, or a stretch, that is not there. -/
  | outOfBounds
  /-- A quotient or a remainder by zero. -/
  | divisionByZero
  /-- A difference below zero. -/
  | belowZero
  /-- A number that does not fit into a word. -/
  | overflow
  /-- A loop that comes no closer to its end. -/
  | endless
deriving DecidableEq, Repr

namespace Checked

variable {α : Type}

/-! ## Single steps

  Each step can fail in one way, and the condition under which it does not is the hypothesis of
  its lemma. -/

/-- The element at a place. -/
def index (items : Array α) (place : Nat) : Except Breach α :=
  if h : place < items.size then .ok items[place] else .error .outOfBounds

/-- The elements from one place up to another. -/
def slice (items : Array α) (start stop : Nat) : Except Breach (Array α) :=
  if start ≤ stop ∧ stop ≤ items.size then .ok (items.extract start stop)
  else .error .outOfBounds

/-- Two elements change places. -/
def swap (items : Array α) (first second : Nat) : Except Breach (Array α) :=
  if h : first < items.size ∧ second < items.size then
    .ok (items.swap first second h.1 h.2)
  else .error .outOfBounds

def quotient (n divisor : Nat) : Except Breach Nat :=
  if divisor = 0 then .error .divisionByZero else .ok (n / divisor)

def remainder (n divisor : Nat) : Except Breach Nat :=
  if divisor = 0 then .error .divisionByZero else .ok (n % divisor)

def difference (n less : Nat) : Except Breach Nat :=
  if n < less then .error .belowZero else .ok (n - less)

/-- A number that a word has to hold. -/
def word (n : Nat) : Except Breach Nat := if n < 2 ^ 64 then .ok n else .error .overflow

theorem index_eq_ok {items : Array α} {place : Nat} (h : place < items.size) :
    index items place = .ok items[place] := dif_pos h

theorem slice_eq_ok {items : Array α} {start stop : Nat} (h : start ≤ stop)
    (h' : stop ≤ items.size) : slice items start stop = .ok (items.extract start stop) :=
  if_pos ⟨h, h'⟩

theorem swap_eq_ok {items : Array α} {first second : Nat} (h : first < items.size)
    (h' : second < items.size) :
    swap items first second = .ok (items.swap first second h h') := dif_pos ⟨h, h'⟩

theorem quotient_eq_ok {n divisor : Nat} (h : divisor ≠ 0) :
    quotient n divisor = .ok (n / divisor) := if_neg h

theorem remainder_eq_ok {n divisor : Nat} (h : divisor ≠ 0) :
    remainder n divisor = .ok (n % divisor) := if_neg h

theorem difference_eq_ok {n less : Nat} (h : less ≤ n) :
    difference n less = .ok (n - less) := if_neg (Nat.not_lt.2 h)

theorem word_eq_ok {n : Nat} (h : n < 2 ^ 64) : word n = .ok n := if_pos h

/-- After a step that succeeds the next one runs. -/
theorem bind_ok {β : Type} {step : Except Breach α} {a : α} (h : step = .ok a)
    (next : α → Except Breach β) : step >>= next = next a := by
  rw [h]
  rfl

/-! ## Identifiers -/

/-- The turn of a counter. -/
def turn (symbols : Array Char) (counter : Nat) : Except Breach Nat := do
  let place ← remainder counter symbols.size
  let symbol ← index symbols place
  let code ← remainder symbol.toNat symbols.size
  let sum ← word (code + place)
  remainder sum symbols.size

/-- The symbols turned left by so many places, then reversed. -/
def turned (symbols : Array Char) (turn : Nat) : Except Breach (Array Char) := do
  let front ← slice symbols 0 turn
  let back ← slice symbols turn symbols.size
  pure (back ++ front).reverse

/-- The digits of a number, lowest first. -/
def numeral (digits : Array Char) (n : Nat) : Except Breach (List Char) := do
  let place ← remainder n digits.size
  let symbol ← index digits place
  let rest ← quotient n digits.size
  if rest = 0 then pure [symbol]
  else if rest < n then do
    let symbols ← numeral digits rest
    pure (symbol :: symbols)
  else .error .endless
termination_by n

/-- Exchanges symbols while one position runs up from `front` and another one down to zero. -/
def exchange (symbols : Array Char) (front : Nat) : Nat → Except Breach (Array Char)
  | 0 => pure symbols
  | back + 1 => do
    let product ← word (front * (back + 1))
    let first ← index symbols front
    let sum ← word (product + first.toNat)
    let second ← index symbols (back + 1)
    let sum ← word (sum + second.toNat)
    let target ← remainder sum symbols.size
    let symbols ← swap symbols front target
    let front ← word (front + 1)
    exchange symbols front back

/-- The block of filler behind another one. -/
def nextBlock (symbols : Array Char) : Except Breach (Array Char) := do
  let last ← difference symbols.size 1
  exchange symbols 0 last

/-- Fills an identifier up to a length, in blocks that follow the given one. -/
def fillUp (block : Array Char) (length : Nat) (identifier : List Char) :
    Except Breach (List Char) :=
  if _ : identifier.length < length then do
    let next ← nextBlock block
    let lack ← difference length identifier.length
    let more ← slice next 0 (min lack next.size)
    if _ : 0 < more.size then fillUp next length (identifier ++ more.toList)
    else .error .endless
  else pure identifier
termination_by length - identifier.length
decreasing_by
  simp only [List.length_append, Array.length_toList]
  omega

/-- The identifier of a counter. -/
def encode (symbols : Array Char) (minLength counter : Nat) : Except Breach (List Char) := do
  let turn ← turn symbols counter
  let working ← turned symbols turn
  let last ← difference working.size 1
  let lead ← index working last
  let digits ← slice working 1 working.size
  let numeral ← numeral digits counter
  let front := lead :: numeral
  if front.length < minLength then do
    let endSymbol ← index working 0
    fillUp working minLength (front ++ [endSymbol])
  else pure front

/-! ## The alphabet of a codec -/

variable {codec : Codec}

/-- The letters and digits are all in the alphabet of fixtures. -/
theorem mem_letters {c : Char} (h : c.isAlphanum = true) : c ∈ Codec.letters.toList := by
  have hall : ∀ n < 128, (Char.ofNat n).isAlphanum = true →
      Char.ofNat n ∈ Codec.letters.toList := by
    decide +kernel
  have hmem := hall c.toNat (Codec.toNat_lt_of_isAlphanum h)
  rw [Char.ofNat_toNat] at hmem
  exact hmem h

/-- An alphabet has no more symbols than there are letters and digits. -/
theorem size_le (codec : Codec) : codec.size ≤ 62 := by
  have hsubset : codec.symbols.toList ⊆ Codec.letters.toList := by
    intro c hc
    exact mem_letters (codec.alphanumeric c (by simpa using hc))
  have hlength := List.Nodup.length_le_of_subset codec.distinct hsubset
  have hletters : Codec.letters.toList.length = 62 := by decide +kernel
  rw [hletters] at hlength
  simpa using hlength

/-- The turn of a counter is found without a breach: two remainders by the size of the alphabet
    have a sum that fits a word. -/
theorem turn_eq_ok (codec : Codec) (counter : Nat) :
    turn codec.symbols.toArray counter = .ok (codec.turn counter) := by
  have hsize : codec.symbols.toArray.size = codec.size := codec.symbols.size_toArray
  have hne : codec.size ≠ 0 := codec.size_pos.ne'
  have hplace : counter % codec.size < codec.symbols.toArray.size := by
    rw [hsize]
    exact Nat.mod_lt _ codec.size_pos
  have hsymbol : codec.symbols.toArray[counter % codec.size] = codec.symbolAt counter := rfl
  have hsum : (codec.symbolAt counter).toNat % codec.size + counter % codec.size < 2 ^ 64 := by
    have hcode : (codec.symbolAt counter).toNat % codec.size < codec.size :=
      Nat.mod_lt _ codec.size_pos
    have hle := size_le codec
    omega
  rw [turn, hsize, bind_ok (remainder_eq_ok hne), bind_ok (index_eq_ok hplace), hsymbol,
    bind_ok (remainder_eq_ok hne), bind_ok (word_eq_ok hsum), remainder_eq_ok hne]
  rfl

/-- Places of the alphabet are counted around, and inside it they are the places of the array. -/
theorem getElem_eq_symbolAt (codec : Codec) {place k : Nat} (h : k = place % codec.size)
    (hk : k < codec.symbols.toArray.size) :
    codec.symbols.toArray[k] = codec.symbolAt place := by
  subst h
  rfl

/-- The turned alphabet is cut from two stretches of the array, and both are inside it. -/
theorem turned_eq_ok (codec : Codec) {turn : Nat} (h : turn < codec.size) :
    turned codec.symbols.toArray turn = .ok (codec.turned turn).toArray := by
  have hsize : codec.symbols.toArray.size = codec.size := codec.symbols.size_toArray
  rw [turned, bind_ok (slice_eq_ok (Nat.zero_le _) (by omega)),
    bind_ok (slice_eq_ok (by omega) (Nat.le_refl _))]
  refine congrArg Except.ok (Array.ext ?_ ?_)
  · simp [hsize]
    omega
  · intro place hplace hplace'
    have hlt : place < codec.size := by simpa using hplace'
    have hturned : (codec.turned turn).toArray[place] =
        codec.symbolAt (turn + (codec.size - 1 - place)) := by
      simp [Codec.turned]
    -- the part behind the turn comes first, and then the part before it
    simp only [Array.getElem_reverse, Array.getElem_append, Array.getElem_extract,
      Array.size_extract, Array.size_append, hsize, Nat.min_self, Nat.sub_zero,
      Nat.min_eq_left (Nat.le_of_lt h)]
    rw [hturned]
    split
    · refine getElem_eq_symbolAt codec ?_ _
      rw [Nat.mod_eq_of_lt (by omega)]
      omega
    · refine getElem_eq_symbolAt codec ?_ _
      rw [Nat.mod_eq_sub_mod (by omega), Nat.mod_eq_of_lt (by omega)]
      omega

/-- Each division by the number of digits makes what is left smaller. -/
theorem numeral_eq_ok (codec : Codec) (turn n : Nat) :
    numeral ((codec.turned turn).toArray.extract 1 codec.size) n =
      .ok ((Codec.numeral codec.base codec.two_le_base n).map (codec.digit turn)) := by
  -- along the division, which comes closer to zero as there are two digits at least
  induction n using Nat.strongRecOn with
  | ind n ih =>
    have hsize : ((codec.turned turn).toArray.extract 1 codec.size).size = codec.base := by
      simp [Codec.base]
    have hbase := codec.two_le_base
    have hplace : n % codec.base < ((codec.turned turn).toArray.extract 1 codec.size).size := by
      rw [hsize]
      exact Nat.mod_lt _ (by omega)
    have hdigit : ((codec.turned turn).toArray.extract 1 codec.size)[n % codec.base] =
        codec.digit turn ⟨n % codec.base, Nat.mod_lt _ (by omega)⟩ := by
      simp [Codec.digit]
    rw [numeral, hsize, bind_ok (remainder_eq_ok (by omega)), bind_ok (index_eq_ok hplace), hdigit,
      bind_ok (quotient_eq_ok (by omega)), Codec.numeral]
    by_cases hlast : n / codec.base = 0
    · rw [if_pos hlast, if_pos hlast]
      rfl
    · -- something is left to write, and it is less than before
      have hless : n / codec.base < n :=
        Nat.div_lt_self (Nat.pos_of_ne_zero fun hzero => hlast (by simp [hzero])) hbase
      rw [if_neg hlast, if_neg hlast, if_pos hless, bind_ok (ih _ hless)]
      rfl

/-! ## Filler

  The alphabet may be a block of any length up to sixty-two, which the sums need. -/

/-- Two positions that start at both ends and run towards each other stay inside, and products of
    positions and codes of symbols are small. -/
theorem exchange_eq_ok {length : Nat} (hlength : length ≤ 62) (back : Nat) (h : back < length)
    (symbols : Vector Char length) :
    exchange symbols.toArray (length - 1 - back) back =
      .ok (Codec.exchangeFrom back h symbols).toArray := by
  induction back generalizing symbols with
  | zero => rfl
  | succ back ih =>
    have hsize : symbols.toArray.size = length := symbols.size_toArray
    have hfront : length - 1 - (back + 1) < symbols.toArray.size := by omega
    have hback : back + 1 < symbols.toArray.size := by omega
    -- with at most sixty-two symbols no product or sum comes near the end of a word
    have hproduct : (length - 1 - (back + 1)) * (back + 1) ≤ 62 * 62 :=
      Nat.mul_le_mul (by omega) (by omega)
    have hfirst : symbols.toArray[length - 1 - (back + 1)].toNat < 2 ^ 32 :=
      UInt32.toNat_lt _
    have hsecond : symbols.toArray[back + 1].toNat < 2 ^ 32 := UInt32.toNat_lt _
    have htarget : ((length - 1 - (back + 1)) * (back + 1) +
        symbols.toArray[length - 1 - (back + 1)].toNat + symbols.toArray[back + 1].toNat) %
          length < symbols.toArray.size := by
      rw [hsize]
      exact Nat.mod_lt _ (by omega)
    rw [exchange, bind_ok (word_eq_ok (by omega)), bind_ok (index_eq_ok hfront),
      bind_ok (word_eq_ok (by omega)), bind_ok (index_eq_ok hback),
      bind_ok (word_eq_ok (by omega)), hsize, bind_ok (remainder_eq_ok (by omega)),
      bind_ok (swap_eq_ok hfront htarget), bind_ok (word_eq_ok (by omega)),
      show length - 1 - (back + 1) + 1 = length - 1 - back by omega]
    rw [hsize] at hfront htarget
    exact ih (by omega) (symbols.swap _ _ hfront htarget)

theorem nextBlock_eq_ok {length : Nat} (hlength : length ≤ 62) (hpos : 0 < length)
    (symbols : Vector Char length) :
    nextBlock symbols.toArray = .ok (Codec.nextBlock symbols).toArray := by
  have hexchange := exchange_eq_ok hlength (length - 1) (by omega) symbols
  rw [Nat.sub_self] at hexchange
  rw [nextBlock, bind_ok (difference_eq_ok (by rw [symbols.size_toArray]; omega)),
    symbols.size_toArray, hexchange, Codec.nextBlock, dif_pos hpos]

/-- Every block brings the identifier closer to its length. -/
theorem fillUp_eq_ok {length : Nat} (hlength : length ≤ 62) (hpos : 0 < length)
    (block : Vector Char length) (minLength : Nat) (identifier : List Char) :
    fillUp block.toArray minLength identifier =
      .ok (identifier ++ Codec.filler hpos block (minLength - identifier.length)) := by
  induction hlack : minLength - identifier.length using Nat.strongRecOn
    generalizing block identifier with
  | ind lack ih =>
    subst hlack
    by_cases hshort : identifier.length < minLength
    · have hsize : (Codec.nextBlock block).toArray.size = length := Vector.size_toArray _
      rw [fillUp, dif_pos hshort, bind_ok (nextBlock_eq_ok hlength hpos block),
        bind_ok (difference_eq_ok (by omega)),
        bind_ok (slice_eq_ok (Nat.zero_le _) (Nat.min_le_right _ _))]
      let more := (Codec.nextBlock block).toList.take (minLength - identifier.length)
      have hmore : ((Codec.nextBlock block).toArray.extract 0
          (min (minLength - identifier.length) (Codec.nextBlock block).toArray.size)).toList =
          more := by
        rw [Array.toList_extract, List.extract_eq_take_drop, List.drop_zero, Nat.sub_zero, hsize]
        exact List.take_eq_take_iff.2 (by simp)
      have hlength' : more.length = min (minLength - identifier.length) length := by
        simp [more]
      have htaken := congrArg List.length hmore
      rw [Array.length_toList, hlength'] at htaken
      rw [dif_pos (by omega), hmore]
      have hrest := ih _ (by rw [List.length_append]; omega) (Codec.nextBlock block)
        (identifier ++ more) rfl
      have hlack : minLength - (identifier ++ more).length =
          minLength - identifier.length - length := by
        rw [List.length_append]
        omega
      rw [hrest, hlack, List.append_assoc, Codec.filler.eq_def hpos block, if_neg (by omega)]
    · rw [fillUp, dif_neg hshort, Codec.filler, if_pos (by omega), List.append_nil]
      rfl

/-- **No check fails where an identifier is written.** -/
theorem encode_eq_ok (codec : Codec) (counter : Nat) :
    encode codec.symbols.toArray codec.minLength counter = .ok (codec.encodeChars counter) := by
  have hturn : codec.turn counter < codec.size := codec.turn_lt_size counter
  have hpos := codec.size_pos
  have hsize : (codec.turned (codec.turn counter)).toArray.size = codec.size :=
    Vector.size_toArray _
  have hlast : codec.size - 1 < (codec.turned (codec.turn counter)).toArray.size := by omega
  have hfirst : 0 < (codec.turned (codec.turn counter)).toArray.size := by omega
  rw [encode, bind_ok (turn_eq_ok codec counter), bind_ok (turned_eq_ok codec hturn), hsize,
    bind_ok (difference_eq_ok hpos), bind_ok (index_eq_ok hlast),
    bind_ok (slice_eq_ok hpos (Nat.le_of_eq hsize.symm)), bind_ok (numeral_eq_ok codec _ counter)]
  change (if (codec.significant counter).length < codec.minLength then _ else _) = _
  rw [Codec.encodeChars]
  by_cases hshort : (codec.significant counter).length < codec.minLength
  · rw [if_pos hshort, if_pos hshort, bind_ok (index_eq_ok hfirst),
      fillUp_eq_ok (size_le codec) hpos]
    change Except.ok ((codec.significant counter ++ [codec.endSymbol (codec.turn counter)]) ++
      Codec.filler hpos (codec.turned (codec.turn counter)) (codec.minLength -
        (codec.significant counter ++ [codec.endSymbol (codec.turn counter)]).length)) = _
    rw [List.append_assoc, List.length_append]
    rfl
  · rw [if_neg hshort, if_neg hshort]
    rfl

end Checked

end Thicket
