/-
  How long an identifier is.

  An identifier has a lead, the digits of its counter, and as much filler as it still lacks.  So its
  length is known from the number of the digits: one more, or the minimum length if that is greater.

  1. **Digits** — a numeral has as many symbols as the counter has digits in the codec's base, but
     zero is written with one (`length_numeral`).  Counted by the logarithm this needs no
     exception (`max_length_digits`).
  2. **Growth** — the logarithm is monotone, so a later identifier is never the shorter one
     (`length_encode_mono`).
  3. **Bounds** — with all sixty-two letters and digits the base is sixty-one, and eleven digits are
     enough for every counter (`utf8ByteSize_encode_le`).

  Together with what identifiers are made of this is `encode_symbols_and_length`.
-/
import Thicket.Proofs.Codec.Shuffled
import Mathlib.Data.Nat.Digits.Lemmas

namespace Thicket

namespace Codec

/-! ## Digits

  The library counts the digits of zero as none; a numeral has one symbol for it. -/

/-- **A numeral has a symbol for each digit.**  The division that makes it is the one that the
    logarithm counts. -/
theorem length_numeral {base : Nat} (h : 2 ≤ base) (n : Nat) :
    (numeral base h n).length = Nat.log base n + 1 := by
  induction n using Nat.strongRecOn with
  | ind n ih =>
    rw [numeral, List.length_cons]
    by_cases hquotient : n / base = 0
    · -- one digit is enough for what is below the base
      have hlt : n < base := (Nat.div_eq_zero_iff.1 hquotient).resolve_left (by omega)
      rw [if_pos hquotient, Nat.log_of_lt hlt]
      rfl
    · have hle : base ≤ n := by
        rcases Nat.lt_or_ge n base with hlt | hge
        · exact absurd (Nat.div_eq_of_lt hlt) hquotient
        · exact hge
      have hsmaller : n / base < n := Nat.div_lt_self (by omega) h
      rw [if_neg hquotient, ih _ hsmaller, Nat.log_of_one_lt_of_le h hle]

/-- The number of digits, where zero counts as having one, is one more than the logarithm. -/
theorem max_length_digits {base : Nat} (h : 2 ≤ base) (n : Nat) :
    max 1 (Nat.digits base n).length = Nat.log base n + 1 := by
  rcases Nat.eq_zero_or_pos n with rfl | hpos
  · simp
  · rw [Nat.length_digits base n h (by omega)]
    omega

/-! ## Identifiers

  Letters and digits are ASCII, so symbols and bytes are counted alike. -/

/-- The length of an identifier, with the digits counted by the logarithm. -/
theorem length_encode (codec : Codec) (counter : UInt64) :
    (codec.encode counter).length =
      max codec.minLength (1 + (Nat.log codec.base counter.toNat + 1)) := by
  rw [encode, String.length_ofList, length_encodeChars, length_numeral]

/-- Identifiers grow longer with their counters, or stay as long as they are. -/
theorem length_encode_mono (codec : Codec) {earlier later : UInt64} (h : earlier ≤ later) :
    (codec.encode earlier).length ≤ (codec.encode later).length := by
  have hlog : Nat.log codec.base earlier.toNat ≤ Nat.log codec.base later.toNat :=
    Nat.log_mono_right (UInt64.le_iff_toNat_le.1 h)
  rw [length_encode, length_encode]
  omega

/-- A symbol of an identifier takes one byte. -/
theorem utf8ByteSize_eq_length_encode (codec : Codec) (counter : UInt64) :
    (codec.encode counter).utf8ByteSize = (codec.encode counter).length := by
  rw [utf8ByteSize_encode, length_numeral, length_encode]

/-- **What an identifier is made of, and how long it is.**  All its symbols are in the alphabet.  It
    has one symbol more than its counter has digits, in a base that is smaller by one than the
    alphabet, or the minimum length if that is greater.  So it is never shorter than the identifier
    of an earlier counter; and with an alphabet of sixty-two symbols and a minimum of eight it has
    from eight to twelve. -/
theorem encode_symbols_and_length (codec : Codec) (counter : UInt64) :
    (∀ c ∈ (codec.encode counter).toList, c ∈ codec.symbols) ∧
    (codec.encode counter).length =
      max codec.minLength (1 + max 1 (Nat.digits (codec.size - 1) counter.toNat).length) ∧
    (∀ later, counter ≤ later → (codec.encode counter).length ≤ (codec.encode later).length) ∧
    (codec.size = 62 → codec.minLength = 8 →
      8 ≤ (codec.encode counter).length ∧ (codec.encode counter).length ≤ 12) := by
  refine ⟨?_, ?_, fun later h => codec.length_encode_mono h, ?_⟩
  · intro c hc
    rw [encode, String.toList_ofList] at hc
    exact mem_encodeChars hc
  · have hdigits := max_length_digits codec.two_le_base counter.toNat
    rw [length_encode]
    rw [base] at hdigits ⊢
    rw [hdigits]
  · intro hsize hlength
    constructor
    · rw [length_encode]
      omega
    · have hbytes := utf8ByteSize_encode_le hsize hlength counter
      rw [utf8ByteSize_eq_length_encode] at hbytes
      exact hbytes

/-- Over the letters and digits in their usual order the first identifier has eight symbols, one of
    which is a `J`, and the last one has twelve. -/
theorem letters_symbols_and_length :
    ∃ codec, ofSymbols? letters.toList.toArray 8 = .ok codec ∧
      codec.size = 62 ∧ codec.minLength = 8 ∧ (0 : UInt64) ≤ 0xFFFFFFFFFFFFFFFF ∧
      'J' ∈ (codec.encode 0).toList ∧ 'J' ∈ codec.symbols ∧
      (codec.encode 0).length = 8 ∧ (codec.encode 0xFFFFFFFFFFFFFFFF).length = 12 ∧
      (codec.encode 0).length ≤ (codec.encode 0xFFFFFFFFFFFFFFFF).length ∧
      8 ≤ (codec.encode 0).length ∧ (codec.encode 0).length ≤ 12 := by
  have hshown : ((ofSymbols? letters.toList.toArray 8).toOption.map fun codec =>
      decide ('J' ∈ (codec.encode 0).toList)) = some true := by decide +kernel
  have hzero : (Nat.digits (62 - 1) (0 : UInt64).toNat).length = 0 := by simp
  have hlast : (Nat.digits (62 - 1) (0xFFFFFFFFFFFFFFFF : UInt64).toNat).length = 11 := by simp
  cases hcodec : ofSymbols? letters.toList.toArray 8 with
  | error fault =>
    rw [hcodec] at hshown
    cases hshown
  | ok codec =>
    rw [hcodec] at hshown
    have hmem : 'J' ∈ (codec.encode 0).toList := of_decide_eq_true (Option.some.inj hshown)
    have hsize : codec.size = 62 := (size_of_ofSymbols? hcodec).1
    have hlength : codec.minLength = 8 := (size_of_ofSymbols? hcodec).2
    obtain ⟨hsymbols, hfirst, hgrows, hbounds⟩ := encode_symbols_and_length codec 0
    obtain ⟨-, hfinal, -, -⟩ := encode_symbols_and_length codec 0xFFFFFFFFFFFFFFFF
    rw [hlength, hsize, hzero] at hfirst
    rw [hlength, hsize, hlast] at hfinal
    exact ⟨codec, rfl, hsize, hlength, by decide, hmem, hsymbols _ hmem, hfirst, hfinal,
      hgrows _ (by decide), hbounds hsize hlength⟩

end Codec

end Thicket
