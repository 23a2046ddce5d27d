/-
  The codec of a fixture.

  Its alphabet is drawn: all letters and digits, in whatever order they come (`gives_dealt`).
  None of these orders is refused as an alphabet (`ofSymbols?_of_perm`), for the tests ask for
  nothing but enough different letters and digits.  Only a minimum length that is too small is
  refused, and that is looked at after the order was drawn (`run_shuffled`).

  So the base of a fixture's codec is sixty-one, and as no counter has more than eleven digits in
  that base, no identifier has more than twelve symbols (`utf8ByteSize_encode_le`).  The bound is
  what the length of paths is reckoned with.
-/
import Thicket.Codec.Shuffled
import Thicket.Proofs.Codec.Symbols
import Thicket.Proofs.Random.Gives

namespace Thicket

variable {σ : Type}

namespace Codec

/-- A codec has the symbols that it was made from, and the minimum length. -/
theorem size_of_ofSymbols? {symbols : Array Char} {minLength : Nat} {codec : Codec}
    (h : ofSymbols? symbols minLength = .ok codec) :
    codec.size = symbols.size ∧ codec.minLength = minLength := by
  rw [ofSymbols?] at h
  split at h
  · split at h
    · cases h
    · split at h
      · split at h
        · cases h
          exact ⟨rfl, rfl⟩
        · cases h
      · cases h
  · cases h

/-! ## Every order of the letters and digits

  The three facts about the list are computed; what follows uses only that it is a list of
  different letters and digits. -/

theorem length_letters : letters.toList.length = 62 := by decide +kernel

theorem letters_nodup : letters.toList.Nodup := by decide +kernel

theorem isAlphanum_of_mem_letters : ∀ c ∈ letters.toList, c.isAlphanum = true := by
  have hall : letters.toList.all Char.isAlphanum = true := by decide +kernel
  exact List.all_eq_true.1 hall

/-- The alphabet has all letters and digits, each once, and identifiers have at least so many. -/
structure Dealt (codec : Codec) (minLength : Nat) : Prop where
  perm : codec.symbols.toList.Perm letters.toList
  minLength_eq : codec.minLength = minLength

theorem Dealt.size_eq {codec : Codec} {minLength : Nat} (h : Dealt codec minLength) :
    codec.size = 62 := by
  have hlength := h.perm.length_eq
  rwa [length_letters, Vector.length_toList] at hlength

/-- **No order of the letters and digits is refused as an alphabet.** -/
theorem ofSymbols?_of_perm {symbols : Array Char} (h : symbols.Perm letters.toList.toArray)
    (minLength : Nat) :
    if 3 ≤ minLength then ∃ codec, ofSymbols? symbols minLength = .ok codec ∧ Dealt codec minLength
    else ofSymbols? symbols minLength = .error (.shortIdentifiers minLength) := by
  have hperm : symbols.toList.Perm letters.toList := h.toList
  have hsize : 3 ≤ symbols.size := by
    rw [h.size_eq, List.size_toArray, length_letters]
    decide
  have hplain : symbols.find? (fun c => !c.isAlphanum) = none := by
    rw [Array.find?_eq_none]
    intro c hc
    have hletter : c ∈ letters.toList := hperm.mem_iff.1 (Array.mem_toList_iff.2 hc)
    simp [isAlphanum_of_mem_letters c hletter]
  have hdistinct : symbols.toList.Nodup := hperm.nodup_iff.2 letters_nodup
  -- the first three tests are passed, and the fourth one looks at the length only
  have htested : ofSymbols? symbols minLength =
      if hlength : 3 ≤ minLength then
        .ok {
          size := symbols.size
          symbols := symbols.toVector
          minLength
          three_le_size := hsize
          alphanumeric := fun c hc => isAlphanum_of_mem_letters c (hperm.mem_iff.1 (by
            simpa [Array.toVector] using hc))
          distinct := hdistinct
          three_le_minLength := hlength }
      else .error (.shortIdentifiers minLength) := by
    rw [ofSymbols?, dif_pos hsize]
    split
    · rename_i c hstrange
      rw [hplain] at hstrange
      cases hstrange
    · rw [dif_pos hdistinct]
  rw [htested]
  split
  · exact ⟨_, rfl, hperm, rfl⟩
  · rfl

/-- The order is drawn before the length is looked at. -/
theorem run_shuffled [WordSource σ] (patience minLength : Nat) (source : σ) :
    shuffled patience minLength source =
      match Draw.shuffle patience letters.toList.toArray source with
      | .ok symbols after => .ok (ofSymbols? symbols minLength) after
      | .error reason after => .error reason after := by
  rw [shuffled]
  cases hshuffle : Draw.shuffle patience letters.toList.toArray source with
  | ok symbols after => exact run_bind_of_ok hshuffle
  | error reason after => exact run_bind_of_error hshuffle

/-- What is drawn is a codec with all letters and digits, if identifiers are long enough for one. -/
theorem gives_dealt [WordSource σ] (patience minLength : Nat) :
    Draw.Gives (σ := σ) (shuffled patience minLength) fun result =>
      if 3 ≤ minLength then ∃ codec, result = .ok codec ∧ Dealt codec minLength
      else result = .error (.shortIdentifiers minLength) :=
  (Draw.gives_shuffle _ _).bind fun _ hsymbols =>
    Draw.gives_pure (ofSymbols?_of_perm hsymbols minLength)

/-! ## Lengths -/

/-- **Identifiers of a fixture have twelve symbols at most.** -/
theorem utf8ByteSize_encode_le {codec : Codec} (hsize : codec.size = 62)
    (hlength : codec.minLength = fixtureLength) (counter : UInt64) :
    (codec.encode counter).utf8ByteSize ≤ 12 := by
  have hbase : codec.base = 61 := by rw [base, hsize]
  -- eleven digits are enough, for 61 ^ 11 is more than 2 ^ 64
  have hcounter : counter.toNat < codec.base ^ (10 + 1) := by
    have hlt := counter.toNat_lt
    rw [hbase]
    omega
  have hnumeral := length_numeral_le codec.two_le_base hcounter
  rw [utf8ByteSize_encode, hlength, fixtureLength]
  omega

end Codec

end Thicket
