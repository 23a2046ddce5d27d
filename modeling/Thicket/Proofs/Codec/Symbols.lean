/-
  What identifiers consist of, and how long they are.

  1. **Symbols** — every symbol of an identifier is a symbol of the alphabet: lead, digits and end
     symbol come from the turned alphabet, and every block of filler is that alphabet in another
     order (`mem_encodeChars`).  The alphabet has ASCII letters and digits only, so an identifier
     has neither a slash nor a point nor a NUL in it.
  2. **Lengths** — an identifier has one symbol more than its numeral, and at least the minimum
     length (`length_encodeChars`); a numeral is as long as the division that makes it
     (`length_numeral_le`).
  3. **Names** — with three symbols or more an identifier stands for no directory by itself, so it
     is a name that a path can step to, whatever suffix is put behind it (`isStep_encode_append`).
     Its symbols take one byte each, so bounds on its length are bounds on its size.
-/
import Thicket.Proofs.Codec.RoundTrip
import Thicket.Proofs.Disk.PlainName

namespace Thicket

namespace Codec

variable {codec : Codec}

/-! ## Symbols

  Filler is the only part whose symbols take an induction, along the blocks. -/

/-- Wherever one counts to, there is a symbol of the alphabet. -/
theorem symbolAt_mem (codec : Codec) (place : Nat) : codec.symbolAt place ∈ codec.symbols := by
  rw [symbolAt]
  exact Vector.getElem_mem _

theorem mem_of_mem_turned {turn : Nat} {c : Char} (h : c ∈ codec.turned turn) :
    c ∈ codec.symbols := by
  rw [turned, Vector.mem_ofFn] at h
  obtain ⟨place, rfl⟩ := h
  exact symbolAt_mem codec _

/-- Filler has the symbols of the block that it starts from. -/
theorem mem_of_mem_filler {length : Nat} (hlength : 0 < length) {block : Vector Char length}
    {count : Nat} {c : Char} (h : c ∈ filler hlength block count) : c ∈ block := by
  -- along the filling: each block is the one before it in another order
  induction block, count using filler.induct hlength with
  | case1 block =>
    rw [filler, if_pos rfl] at h
    cases h
  | case2 block count hcount next ih =>
    rw [filler, if_neg hcount] at h
    have hnext : c ∈ nextBlock block → c ∈ block := (nextBlock_perm block).mem_iff.1
    rcases List.mem_append.1 h with htake | hrest
    · exact hnext (Vector.mem_toList_iff.1 (List.mem_of_mem_take htake))
    · exact hnext (ih hrest)

/-- **Every symbol of an identifier is in the alphabet.** -/
theorem mem_encodeChars {counter : Nat} {c : Char} (h : c ∈ codec.encodeChars counter) :
    c ∈ codec.symbols := by
  have hsignificant : ∀ c ∈ codec.significant counter, c ∈ codec.symbols := by
    intro c hc
    rcases List.mem_cons.1 hc with rfl | hdigit
    · rw [lead_eq_symbolAt]
      exact symbolAt_mem codec _
    · obtain ⟨d, -, rfl⟩ := List.mem_map.1 hdigit
      exact mem_of_mem_turned (Vector.getElem_mem _)
  rw [encodeChars] at h
  split at h
  · rcases List.mem_append.1 h with hfront | hback
    · exact hsignificant c hfront
    · -- behind the numeral there are the end symbol and the filler
      rcases List.mem_cons.1 hback with rfl | hfiller
      · exact mem_of_mem_turned (Vector.getElem_mem _)
      · exact mem_of_mem_turned (mem_of_mem_filler codec.size_pos hfiller)
  · exact hsignificant c h

theorem isAlphanum_of_mem_encode {counter : UInt64} {c : Char}
    (h : c ∈ (codec.encode counter).toList) : c.isAlphanum = true := by
  rw [encode, String.toList_ofList] at h
  exact codec.alphanumeric c (mem_encodeChars h)

theorem not_mem_encode {c : Char} (hc : c.isAlphanum = false) (counter : UInt64) :
    c ∉ (codec.encode counter).toList := by
  intro hmem
  rw [isAlphanum_of_mem_encode hmem] at hc
  cases hc

/-! ## Lengths

  Between numeral and filler stands the end symbol, and only where there is filler. -/

/-- **The length of an identifier**: the lead and the numeral, filled up. -/
theorem length_encodeChars (codec : Codec) (counter : Nat) :
    (codec.encodeChars counter).length =
      max codec.minLength (1 + (numeral codec.base codec.two_le_base counter).length) := by
  have hsignificant : (codec.significant counter).length =
      1 + (numeral codec.base codec.two_le_base counter).length := by
    simp [significant, Nat.add_comm]
  rw [encodeChars]
  split
  · rename_i hshort
    rw [List.length_append, List.length_cons, length_filler]
    omega
  · rename_i hlong
    omega

/-- A number below a power of the base has no more digits than the exponent. -/
theorem length_numeral_le {base : Nat} (h : 2 ≤ base) {digits n : Nat}
    (hn : n < base ^ (digits + 1)) :
    (numeral base h n).length ≤ digits + 1 := by
  -- along the digits: a division by the base takes one of them
  induction digits generalizing n with
  | zero =>
    have hquotient : n / base = 0 := Nat.div_eq_of_lt (by simpa using hn)
    rw [numeral, if_pos hquotient]
    exact Nat.le_refl _
  | succ digits ih =>
    rw [numeral]
    split
    · simp
    · have hquotient : n / base < base ^ (digits + 1) := by
        rw [Nat.div_lt_iff_lt_mul (by omega), ← Nat.pow_succ]
        exact hn
      have hrest := ih hquotient
      simp only [List.length_cons]
      omega

/-- An identifier has three symbols at least, for no smaller minimum is accepted. -/
theorem three_le_length_encode (codec : Codec) (counter : UInt64) :
    3 ≤ (codec.encode counter).toList.length := by
  have := codec.three_le_minLength
  rw [encode, String.toList_ofList, length_encodeChars]
  omega

/-! ## Identifiers as names

  Files have an identifier with a suffix for their name, directories one without. -/

/-- An identifier with any suffix that has no slash and no NUL is a name. -/
theorem isStep_encode_append (codec : Codec) (counter : UInt64) {suffix : String}
    (hslash : '/' ∉ suffix.toList) (hnul : '\x00' ∉ suffix.toList) :
    Path.IsStep (codec.encode counter ++ suffix) := by
  refine Path.isStep_of_three_le_length ?_ ?_ ?_
  · have hlength := codec.three_le_length_encode counter
    rw [String.toList_append, List.length_append]
    omega
  · rw [String.toList_append, List.mem_append, not_or]
    exact ⟨not_mem_encode (by decide) counter, hslash⟩
  · rw [String.toList_append, List.mem_append, not_or]
    exact ⟨not_mem_encode (by decide) counter, hnul⟩

/-- An identifier by itself is a name, that of a directory. -/
theorem isStep_encode (codec : Codec) (counter : UInt64) : Path.IsStep (codec.encode counter) := by
  have h : Path.IsStep (codec.encode counter ++ "") :=
    isStep_encode_append codec counter (by decide) (by decide)
  rw [String.append_empty] at h
  exact h

/-- Letters and digits are ASCII. -/
theorem toNat_lt_of_isAlphanum {c : Char} (h : c.isAlphanum = true) : c.toNat < 128 := by
  -- they lie in three ranges
  have hranges : ((decide (65 ≤ c.val ∧ c.val ≤ 90) ||
      (decide (97 ≤ c.val) && decide (c.val ≤ 122))) ||
      (decide (48 ≤ c.val) && decide (c.val ≤ 57))) = true := h
  simp only [Bool.or_eq_true, Bool.and_eq_true, decide_eq_true_eq,
    UInt32.le_iff_toNat_le] at hranges
  change ((65 ≤ c.toNat ∧ c.toNat ≤ 90) ∨ (97 ≤ c.toNat ∧ c.toNat ≤ 122)) ∨
    (48 ≤ c.toNat ∧ c.toNat ≤ 57) at hranges
  omega

/-- Letters and digits take one byte each. -/
theorem utf8ByteSize_ofList_of_isAlphanum {chars : List Char}
    (h : ∀ c ∈ chars, c.isAlphanum = true) : (String.ofList chars).utf8ByteSize = chars.length := by
  induction chars with
  | nil => rfl
  | cons c chars ih =>
    obtain ⟨hc, hchars⟩ := List.forall_mem_cons.1 h
    have hsize : c.utf8Size = 1 := by
      rw [Char.utf8Size_eq_one_iff, UInt32.le_iff_toNat_le]
      exact Nat.le_of_lt_succ (toNat_lt_of_isAlphanum hc)
    rw [String.ofList_cons, String.utf8ByteSize_append, String.utf8ByteSize_singleton, ih hchars,
      hsize, List.length_cons]
    omega

/-- **The size of an identifier in bytes.** -/
theorem utf8ByteSize_encode (codec : Codec) (counter : UInt64) :
    (codec.encode counter).utf8ByteSize =
      max codec.minLength (1 + (numeral codec.base codec.two_le_base counter.toNat).length) := by
  have hchars : ∀ c ∈ codec.encodeChars counter.toNat, c.isAlphanum = true :=
    fun c hc => codec.alphanumeric c (mem_encodeChars hc)
  rw [encode, utf8ByteSize_ofList_of_isAlphanum hchars, length_encodeChars]

end Codec

end Thicket
