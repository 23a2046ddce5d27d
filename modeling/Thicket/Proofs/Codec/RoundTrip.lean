/-
  Reading identifiers undoes writing them.

  An identifier does not say how it was written.  Every counter has an alphabet of its own, turned
  by an amount that depends on the counter, and behind the digits there may be filler.  So a
  reader has to find out the turn, take the digits up to the end symbol, and put the number
  together.  Three facts carry the proof.

  1. **The turned alphabet has no symbol twice** (`turned_nodup`): it is the alphabet in another
     order.  So the end symbol is no digit, and every digit is found at its own place.
  2. **The lead gives the turn away** (`idxOf?_lead`), for it is the alphabet's symbol at the turn.
  3. **A numeral spells its number** (`numeralValue?_numeral`), by induction along the division that
     makes it.

  So `spelled?` finds the counter behind an identifier whatever its filler
  (`spelled?_encodeChars`).  The other direction needs no proof about the filler: `decode` writes
  what it has read once more and compares, so a text that is read as a counter is that counter's
  identifier (`encode_of_decode`).
-/
import Thicket.Codec.Decode
import Mathlib.Data.List.Nodup
import Mathlib.Data.Nat.ModEq

namespace Thicket

namespace Codec

/-! ## Places in a list without repetitions

  Symbols are looked up by their first place, which is their only one. -/

/-- In a list without repetitions a symbol is found where it stands. -/
theorem idxOf?_getElem_of_nodup {symbols : List Char} (hnodup : symbols.Nodup) {place : Nat}
    (h : place < symbols.length) : symbols.idxOf? symbols[place] = some place := by
  rw [List.idxOf?_eq_some_iff]
  refine ⟨h, by simp, ?_⟩
  intro earlier hearlier heq
  have hsame : symbols[earlier] = symbols[place] := by simpa using heq
  have hplace : earlier = place := (hnodup.getElem_inj_iff).1 hsame
  omega

/-! ## The turned alphabet

  The alphabet is turned left and reversed, so its places are counted around and backwards: the
  symbol at a place of the turned alphabet is the one as far before the turn in the alphabet. -/

theorem turn_lt_size (codec : Codec) (counter : Nat) : codec.turn counter < codec.size :=
  Nat.mod_lt _ codec.size_pos

/-- Two places of the alphabet, counted around, hold the same symbol only if they are the same. -/
theorem symbolAt_inj {codec : Codec} {first second : Nat}
    (h : codec.symbolAt first = codec.symbolAt second) :
    first % codec.size = second % codec.size := by
  have hfirst : first % codec.size < codec.symbols.toList.length := by
    simpa using Nat.mod_lt first codec.size_pos
  have hsecond : second % codec.size < codec.symbols.toList.length := by
    simpa using Nat.mod_lt second codec.size_pos
  have hlist : codec.symbols.toList[first % codec.size]
      = codec.symbols.toList[second % codec.size] := by
    simpa [symbolAt] using h
  exact (codec.distinct.getElem_inj_iff).1 hlist

/-- Numbers less than a modulus apart have different remainders. -/
theorem eq_of_add_mod_eq {turn size first second : Nat} (hfirst : first < size)
    (hsecond : second < size) (h : (turn + first) % size = (turn + second) % size) :
    first = second := by
  have hmod : Nat.ModEq size first second := Nat.ModEq.add_left_cancel' turn h
  exact hmod.eq_of_lt_of_lt hfirst hsecond

/-- **The turned alphabet has no symbol twice.** -/
theorem turned_nodup (codec : Codec) (turn : Nat) : (codec.turned turn).toList.Nodup := by
  rw [List.nodup_iff_injective_get]
  intro ⟨first, hfirst⟩ ⟨second, hsecond⟩ heq
  have hf : first < codec.size := by simpa using hfirst
  have hs : second < codec.size := by simpa using hsecond
  have hsymbols : codec.symbolAt (turn + (codec.size - 1 - first))
      = codec.symbolAt (turn + (codec.size - 1 - second)) := by
    simpa [turned] using heq
  -- the alphabet tells its places apart, and turning it moves no two of them together
  have hback := eq_of_add_mod_eq (by omega) (by omega) (symbolAt_inj hsymbols)
  have : first = second := by omega
  subst this
  rfl

/-- The turned alphabet is the end symbol and the digits. -/
theorem turned_eq_cons (codec : Codec) (turn : Nat) :
    (codec.turned turn).toList = codec.endSymbol turn :: codec.digits turn := by
  have hlength : 0 < (codec.turned turn).toList.length := by simpa using codec.size_pos
  have hdrop := List.drop_eq_getElem_cons hlength
  simpa [digits, endSymbol] using hdrop

/-- All symbols of the turned alphabet but the end symbol are digits. -/
theorem length_digits (codec : Codec) (turn : Nat) :
    (codec.digits turn).length = codec.base := by
  simp [digits, base]

theorem digits_nodup (codec : Codec) (turn : Nat) : (codec.digits turn).Nodup := by
  have h := codec.turned_nodup turn
  rw [turned_eq_cons] at h
  exact h.of_cons

theorem val_lt_length_digits (codec : Codec) (turn : Nat) (d : Fin codec.base) :
    d.val < (codec.digits turn).length := by
  rw [length_digits]
  exact d.isLt

/-- Each digit has a place among the symbols of its codec, and at that place stands its symbol. -/
theorem getElem_digits (codec : Codec) (turn : Nat) (d : Fin codec.base) :
    have := codec.val_lt_length_digits turn d
    (codec.digits turn)[d.val] = codec.digit turn d := by
  simp [digits, digit, Nat.add_comm]

theorem digit_mem_digits (codec : Codec) (turn : Nat) (d : Fin codec.base) :
    codec.digit turn d ∈ codec.digits turn := by
  rw [← getElem_digits]
  exact List.getElem_mem _

/-- The symbol of a digit never ends a number. -/
theorem digit_ne_endSymbol (codec : Codec) (turn : Nat) (d : Fin codec.base) :
    codec.digit turn d ≠ codec.endSymbol turn := by
  intro heq
  have h := codec.turned_nodup turn
  rw [turned_eq_cons] at h
  exact (List.nodup_cons.1 h).1 (heq ▸ codec.digit_mem_digits turn d)

/-- A digit is found at its own place among the digits. -/
theorem idxOf?_digit (codec : Codec) (turn : Nat) (d : Fin codec.base) :
    (codec.digits turn).idxOf? (codec.digit turn d) = some d.val := by
  rw [← getElem_digits]
  exact idxOf?_getElem_of_nodup (codec.digits_nodup turn) _

/-- The lead is found in the alphabet at the turn. -/
theorem idxOf?_lead (codec : Codec) {turn : Nat} (h : turn < codec.size) :
    codec.symbols.toList.idxOf? (codec.lead turn) = some turn := by
  have hlength : turn < codec.symbols.toList.length := by simpa using h
  have hlead : codec.lead turn = codec.symbols.toList[turn] := by
    simp [lead_eq_symbolAt, symbolAt, Nat.mod_eq_of_lt h]
  rw [hlead]
  exact idxOf?_getElem_of_nodup codec.distinct hlength

/-! ## Numerals

  Numerals have their lowest digit first, so reading one is the division that wrote it,
  backwards. -/

theorem numeral_ne_nil {base : Nat} (h : 2 ≤ base) (n : Nat) : numeral base h n ≠ [] := by
  rw [numeral]
  exact List.cons_ne_nil _ _

/-- **A numeral spells its number**, in the symbols of any turn. -/
theorem numeralValue?_numeral (codec : Codec) (turn n : Nat) :
    numeralValue? (codec.digits turn) codec.base
      ((numeral codec.base codec.two_le_base n).map (codec.digit turn)) = some n := by
  -- along the division that makes the numeral
  induction n using Nat.strongRecOn with
  | ind n ih =>
    rw [numeral, List.map_cons, numeralValue?, idxOf?_digit]
    have hdivision := Nat.div_add_mod n codec.base
    split
    · -- the last digit: nothing is left to divide
      rename_i hquotient
      rw [hquotient] at hdivision
      simp only [List.map_nil, numeralValue?, Option.bind_eq_bind, Option.bind_some,
        Option.pure_def, Option.some.injEq]
      omega
    · rename_i hquotient
      have hpos : 0 < n := Nat.pos_of_ne_zero (by rintro rfl; exact hquotient (Nat.zero_div _))
      have hsmaller : n / codec.base < n := Nat.div_lt_self hpos codec.two_le_base
      rw [ih _ hsmaller]
      simp only [Option.bind_eq_bind, Option.bind_some, Option.pure_def, Option.some.injEq]
      rw [Nat.mul_comm]
      exact hdivision

/-! ## Identifiers

  Reading takes symbols as long as they are digits.  It stops at the end symbol, which is none,
  or at the end of the text. -/

/-- An identifier is lead and numeral, and then nothing or the end symbol and some filler. -/
theorem encodeChars_eq_append (codec : Codec) (counter : Nat) :
    ∃ rest, codec.encodeChars counter = codec.significant counter ++ rest ∧
      (rest = [] ∨ ∃ filler, rest = codec.endSymbol (codec.turn counter) :: filler) := by
  simp only [encodeChars]
  split
  · exact ⟨_, rfl, Or.inr ⟨_, rfl⟩⟩
  · exact ⟨[], (List.append_nil _).symm, Or.inl rfl⟩

/-- **Every identifier spells its counter**, whatever its filler. -/
theorem spelled?_encodeChars (codec : Codec) (counter : Nat) :
    codec.spelled? (codec.encodeChars counter) = some counter := by
  obtain ⟨rest, heq, hrest⟩ := codec.encodeChars_eq_append counter
  -- the numeral ends where the digits do: no digit is the end symbol, and what follows starts
  -- with it
  have hdigits : ∀ c ∈ (numeral codec.base codec.two_le_base counter).map
      (codec.digit (codec.turn counter)), decide (c ≠ codec.endSymbol (codec.turn counter)) := by
    intro c hc
    obtain ⟨d, -, rfl⟩ := List.mem_map.1 hc
    exact decide_eq_true (codec.digit_ne_endSymbol _ d)
  have hcut : rest.takeWhile (fun c => decide (c ≠ codec.endSymbol (codec.turn counter))) = [] := by
    rcases hrest with rfl | ⟨filler, rfl⟩
    · rfl
    · rw [List.takeWhile_cons_of_neg (by simp)]
  have hnumeral : ((numeral codec.base codec.two_le_base counter).map
      (codec.digit (codec.turn counter))).isEmpty = false := by
    rw [List.isEmpty_eq_false_iff, ne_eq, List.map_eq_nil_iff]
    exact numeral_ne_nil codec.two_le_base counter
  rw [heq, significant, List.cons_append, spelled?, codec.idxOf?_lead (codec.turn_lt_size counter)]
  simp only [Option.bind_eq_bind, Option.bind_some]
  rw [List.takeWhile_append_of_pos hdigits, hcut, List.append_nil, hnumeral,
    codec.numeralValue?_numeral]
  rfl

/-- Reading the identifier of a counter gives the counter. -/
theorem decode_encode (codec : Codec) (counter : UInt64) :
    codec.decode (codec.encode counter) = some counter := by
  have hchars : (codec.encode counter).toList = codec.encodeChars counter.toNat := by
    simp [encode]
  unfold decode
  rw [hchars, codec.spelled?_encodeChars]
  simp only [Option.bind_eq_bind, Option.bind_some, UInt64.ofNat_toNat]
  rw [if_pos ⟨counter.toNat_lt, trivial⟩]
  rfl

/-- A text from which a counter is read is that counter's identifier. -/
theorem encode_of_decode {codec : Codec} {id : String} {counter : UInt64}
    (h : codec.decode id = some counter) : codec.encode counter = id := by
  unfold decode at h
  cases hspelled : codec.spelled? id.toList with
  | none =>
    rw [hspelled] at h
    cases h
  | some value =>
    rw [hspelled] at h
    simp only [Option.bind_eq_bind, Option.bind_some] at h
    split at h
    · rename_i hwritten
      cases h
      exact hwritten.2
    · cases h

/-- No two counters have the same identifier. -/
theorem encode_injective (codec : Codec) : Function.Injective codec.encode := by
  intro first second heq
  have h := codec.decode_encode first
  rw [heq, codec.decode_encode] at h
  exact (Option.some.inj h).symm

/-- **Reading is the inverse of writing, on every text and every counter.**  A text is read as a
    counter exactly if it is that counter's identifier; so reading undoes writing, no two counters
    share an identifier, and what is refused is what no counter is written as. -/
theorem decode_inverts_encode (codec : Codec) :
    (∀ (id : String) (counter : UInt64),
      codec.decode id = some counter ↔ codec.encode counter = id) ∧
    (∀ counter : UInt64, codec.decode (codec.encode counter) = some counter) ∧
    Function.Injective codec.encode ∧
    (∀ id : String, codec.decode id = none ↔ ∀ counter : UInt64, codec.encode counter ≠ id) := by
  have hiff : ∀ (id : String) (counter : UInt64),
      codec.decode id = some counter ↔ codec.encode counter = id := by
    intro id counter
    constructor
    · exact encode_of_decode
    · rintro rfl
      exact codec.decode_encode counter
  refine ⟨hiff, codec.decode_encode, codec.encode_injective, ?_⟩
  intro id
  constructor
  · intro hnone counter heq
    rw [(hiff id counter).2 heq] at hnone
    cases hnone
  · intro hforeign
    rw [Option.eq_none_iff_forall_ne_some]
    intro counter hsome
    exact hforeign counter ((hiff id counter).1 hsome)

end Codec

end Thicket
