/-
  Neighbouring identifiers do not look like neighbours.

  The identifiers of two consecutive counters differ in the lead or in the symbol behind it.  The
  lead gives the turn away, so counters of different turns have different leads (`lead_inj`).
  Counters of one turn share all symbols for their digits, and then their lowest digits differ:
  the base is at least two, so a step of one never comes back to the same remainder
  (`mod_ne_succ_mod`).

  As an identifier has three symbols at least, the first two are never its last
  (`encode_succ_differs`).
-/
import Thicket.Proofs.Codec.Symbols

namespace Thicket

namespace Codec

variable {codec : Codec}

/-! ## What the first two symbols tell -/

/-- Different turns have different leads. -/
theorem lead_inj {first second : Nat} (hfirst : first < codec.size) (hsecond : second < codec.size)
    (h : codec.lead first = codec.lead second) : first = second := by
  rw [lead_eq_symbolAt, lead_eq_symbolAt] at h
  have hplace := symbolAt_inj h
  rw [Nat.mod_eq_of_lt hfirst, Nat.mod_eq_of_lt hsecond] at hplace
  exact hplace

/-- Different digits have different symbols. -/
theorem digit_inj {turn : Nat} {first second : Fin codec.base}
    (h : codec.digit turn first = codec.digit turn second) : first = second := by
  have hfound := codec.idxOf?_digit turn first
  rw [h, idxOf?_digit] at hfound
  exact Fin.ext (Option.some.inj hfound).symm

/-- A step of one changes the lowest digit. -/
theorem mod_ne_succ_mod {base : Nat} (h : 2 ≤ base) (n : Nat) : n % base ≠ (n + 1) % base := by
  intro hsame
  have hstep : (n + 0) % base = (n + 1) % base := hsame
  have : 0 = 1 := eq_of_add_mod_eq (by omega) (by omega) hstep
  omega

/-- The first two symbols of an identifier are its lead and its lowest digit. -/
theorem encodeChars_eq_cons_cons (codec : Codec) (counter : Nat) :
    ∃ lowest : Fin codec.base, lowest.val = counter % codec.base ∧
      ∃ rest, codec.encodeChars counter =
        codec.lead (codec.turn counter) :: codec.digit (codec.turn counter) lowest :: rest := by
  obtain ⟨rest, heq, -⟩ := codec.encodeChars_eq_append counter
  rw [heq, significant, numeral]
  exact ⟨_, rfl, _, rfl⟩

/-! ## Consecutive counters

  The next counter may have the same turn or another one, and each case has its own difference:
  in the digit behind the lead, or in the lead. -/

/-- **Consecutive counters differ in the first two symbols.** -/
theorem take_two_encodeChars_ne (codec : Codec) (counter : Nat) :
    (codec.encodeChars counter).take 2 ≠ (codec.encodeChars (counter + 1)).take 2 := by
  obtain ⟨first, hfirst, rest, heq⟩ := codec.encodeChars_eq_cons_cons counter
  obtain ⟨second, hsecond, rest', heq'⟩ := codec.encodeChars_eq_cons_cons (counter + 1)
  intro hsame
  rw [heq, heq'] at hsame
  obtain ⟨hlead, htail⟩ := List.cons.inj hsame
  -- the leads agree, so both are written with the same digits
  have hturn : codec.turn counter = codec.turn (counter + 1) :=
    lead_inj (codec.turn_lt_size _) (codec.turn_lt_size _) hlead
  have hdigit := (List.cons.inj htail).1
  rw [hturn] at hdigit
  have hlowest : first = second := digit_inj hdigit
  apply mod_ne_succ_mod codec.two_le_base counter
  rw [← hfirst, ← hsecond, hlowest]

/-- What two texts have in common but for their last symbols, they have in common in front. -/
theorem take_two_eq_of_dropLast_eq {first second : List Char} (hfirst : 3 ≤ first.length)
    (hsecond : 3 ≤ second.length) (h : first.dropLast = second.dropLast) :
    first.take 2 = second.take 2 := by
  have hfront : ∀ symbols : List Char, 3 ≤ symbols.length →
      symbols.dropLast.take 2 = symbols.take 2 := by
    intro symbols hlength
    rw [List.dropLast_eq_take, List.take_take, show min 2 (symbols.length - 1) = 2 by omega]
  rw [← hfront first hfirst, ← hfront second hsecond, h]

/-- **The identifiers of two consecutive counters differ within their first two symbols.**  Every
    identifier has three symbols at least, so they differ in front of the last one. -/
theorem encode_succ_differs (codec : Codec) {counter : UInt64}
    (h : counter < 0xFFFFFFFFFFFFFFFF) :
    (codec.encode counter).toList.take 2 ≠ (codec.encode (counter + 1)).toList.take 2 ∧
    3 ≤ (codec.encode counter).length ∧ 3 ≤ (codec.encode (counter + 1)).length ∧
    (codec.encode counter).toList.dropLast ≠ (codec.encode (counter + 1)).toList.dropLast := by
  have hsucc : (counter + 1).toNat = counter.toNat + 1 := by
    have hlt : counter.toNat < 2 ^ 64 - 1 := UInt64.lt_iff_toNat_lt.1 h
    rw [UInt64.toNat_add]
    show (counter.toNat + 1) % 2 ^ 64 = counter.toNat + 1
    omega
  have htake : (codec.encode counter).toList.take 2 ≠
      (codec.encode (counter + 1)).toList.take 2 := by
    rw [encode, encode, String.toList_ofList, String.toList_ofList, hsucc]
    exact codec.take_two_encodeChars_ne counter.toNat
  have hlength := codec.three_le_length_encode counter
  have hlength' := codec.three_le_length_encode (counter + 1)
  refine ⟨htake, hlength, hlength', ?_⟩
  intro hlast
  exact htake (take_two_eq_of_dropLast_eq hlength hlength' hlast)

/-- Over the alphabet `bac` all counters have one turn, so that the same symbol leads them all; and
    yet seven and eight differ in the symbol behind it. -/
theorem bac_encode_succ_differs :
    ∃ codec, ofSymbols? #['b', 'a', 'c'] 3 = .ok codec ∧
      (7 : UInt64) < 0xFFFFFFFFFFFFFFFF ∧
      (codec.encode 7).toList.take 1 = (codec.encode (7 + 1)).toList.take 1 ∧
      (codec.encode 7).toList.take 2 ≠ (codec.encode (7 + 1)).toList.take 2 ∧
      3 ≤ (codec.encode 7).length ∧ 3 ≤ (codec.encode (7 + 1)).length ∧
      (codec.encode 7).toList.dropLast ≠ (codec.encode (7 + 1)).toList.dropLast := by
  have hshown : ((ofSymbols? #['b', 'a', 'c'] 3).toOption.map fun codec =>
      ((codec.encode 7).toList.take 1, (codec.encode (7 + 1)).toList.take 1)) =
        some (['c'], ['c']) := by decide +kernel
  cases hcodec : ofSymbols? #['b', 'a', 'c'] 3 with
  | error fault =>
    rw [hcodec] at hshown
    cases hshown
  | ok codec =>
    rw [hcodec] at hshown
    obtain ⟨hseven, height⟩ := Prod.mk.inj (Option.some.inj hshown)
    have hlt : (7 : UInt64) < 0xFFFFFFFFFFFFFFFF := by decide
    exact ⟨codec, rfl, hlt, hseven.trans height.symm, codec.encode_succ_differs hlt⟩

end Codec

end Thicket
