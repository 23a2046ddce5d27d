/-
  How evenly numbers are drawn.

  A word times the range, divided by the number of words, is the answer, and the word counts if the
  remainder is at most the zone.  So the words answered with `q` are those whose product with the
  range lies in an interval that begins at `q` times the number of words (`accepts_iff`).  That
  interval is `2 ^ leading` ranges long, where `leading` is how far the range can be shifted up, and
  an interval of so many ranges holds exactly so many multiples of the range, wherever it begins
  (`card_accepted_answer`).  The count does not depend on `q`, which is all that evenness means.

  1. **Counting words** — this is about natural numbers and any width of words.  The accepted
     words with one answer are an interval of words (`accepted_answer_eq`); summed over all
     answers there are as many of them as the shifted range says, at least half of all
     (`two_pow_le_shifted`).
  2. **Numbers from a closed range** — `answer?` says what the program makes of one double word.
     The draw is the answer to the first double word that has one (`between_eq_answer`,
     `answered_of_between`).  The range of all numbers is an exception: its length is no word, and
     every double word is taken.

  Nothing is said of how likely words are.  The count is over all words, each once; it is a
  statement of probability for every source that gives each word equally often.
-/
import Mathlib.Algebra.Order.BigOperators.Group.Finset
import Mathlib.Data.Set.Card
import Mathlib.Order.Interval.Finset.Nat
import Thicket.Proofs.Random.Gives
import Thicket.Proofs.Random.Patience

namespace Thicket

namespace Draw

open WordSource

/-! ## Counting words

  The remainder of a product decides whether its word counts, and the quotient what it is
  answered with; both are read off the product's place between multiples of the number of words. -/

/-- How far a range can be shifted up within a word: the number of its leading zeros. -/
def leading (width range : Nat) : Nat := width - 1 - range.log2

/-- The words that are not rejected, as numbers. -/
def accepted (width range : Nat) : Finset Nat :=
  (Finset.range (2 ^ width)).filter fun v => v * range % 2 ^ width ≤ zone width range

section Words

variable {width range : Nat}

/-- Shifted up, the range has its top bit where words have theirs. -/
theorem two_pow_le_shifted (hrange : 0 < range) (hwidth : range < 2 ^ width) :
    2 ^ (width - 1) ≤ range * 2 ^ leading width range := by
  have hlog : range.log2 < width := (Nat.log2_lt (by omega)).2 hwidth
  calc 2 ^ (width - 1) = 2 ^ range.log2 * 2 ^ leading width range := by
        rw [← Nat.pow_add, leading]
        congr 1
        omega
    _ ≤ range * 2 ^ leading width range :=
        Nat.mul_le_mul_right _ (Nat.log2_self_le (by omega))

/-- Shifted up, the range is not longer than the words are many. -/
theorem shifted_le_two_pow (hrange : 0 < range) (hwidth : range < 2 ^ width) :
    range * 2 ^ leading width range ≤ 2 ^ width := by
  have hlog : range.log2 < width := (Nat.log2_lt (by omega)).2 hwidth
  calc range * 2 ^ leading width range
      ≤ 2 ^ (range.log2 + 1) * 2 ^ leading width range :=
        Nat.mul_le_mul_right _ Nat.lt_log2_self.le
    _ = 2 ^ width := by
        rw [← Nat.pow_add, leading]
        congr 1
        omega

/-- The zone is one less than the shifted range, so a remainder is accepted if it is below that. -/
theorem le_zone_iff (hrange : 0 < range) (remainder : Nat) :
    remainder ≤ zone width range ↔ remainder < range * 2 ^ leading width range := by
  have hpos : 0 < range * 2 ^ leading width range := Nat.mul_pos hrange (Nat.two_pow_pos _)
  rw [zone, ← leading]
  omega

/-- A word is accepted and answered with `q` if its product with the range lies in the interval of
    the shifted range's length that begins at `q` times the number of words. -/
theorem accepts_iff (hrange : 0 < range) (hwidth : range < 2 ^ width) (v q : Nat) :
    v * range % 2 ^ width ≤ zone width range ∧ v * range / 2 ^ width = q ↔
      q * 2 ^ width ≤ v * range ∧ v * range < q * 2 ^ width + range * 2 ^ leading width range := by
  have hshifted := shifted_le_two_pow hrange hwidth
  have hparts := Nat.div_add_mod (v * range) (2 ^ width)
  have hmod := Nat.mod_lt (v * range) (Nat.two_pow_pos width)
  rw [le_zone_iff hrange]
  constructor
  · rintro ⟨hzone, rfl⟩
    rw [Nat.mul_comm (v * range / 2 ^ width)]
    omega
  · rintro ⟨hfrom, hto⟩
    have hanswer : v * range / 2 ^ width = q := by
      rw [Nat.div_eq_iff (Nat.two_pow_pos width)]
      omega
    rw [hanswer, Nat.mul_comm] at hparts
    exact ⟨by omega, hanswer⟩

/-- The least word whose product with the range is at least `q` times the number of words. -/
def firstWord (width range q : Nat) : Nat := (q * 2 ^ width + (range - 1)) / range

/-- A bound on the product is a bound on the word. -/
theorem firstWord_le_iff (hrange : 0 < range) (v q : Nat) :
    firstWord width range q ≤ v ↔ q * 2 ^ width ≤ v * range := by
  rw [firstWord, Nat.div_le_iff_le_mul_add_pred hrange, Nat.mul_comm range v]
  omega

/-- An interval that is a number of ranges long bounds the words it holds by that number. -/
theorem lt_firstWord_add_iff (hrange : 0 < range) (v q count : Nat) :
    v < firstWord width range q + count ↔ v * range < q * 2 ^ width + range * count := by
  by_cases hv : v < count
  · have hproduct : v * range < range * count := by
      rw [Nat.mul_comm]
      exact Nat.mul_lt_mul_of_pos_left hv hrange
    omega
  · obtain ⟨before, rfl⟩ := Nat.exists_eq_add_of_le' (Nat.le_of_not_lt hv)
    have hbefore : firstWord width range q ≤ before ↔ q * 2 ^ width ≤ before * range :=
      firstWord_le_iff hrange before q
    rw [Nat.add_mul, Nat.mul_comm count]
    omega

/-- **The accepted words with one answer follow one another, as many as the shift says.** -/
theorem accepted_answer_eq (hrange : 0 < range) (hwidth : range < 2 ^ width) {q : Nat}
    (hq : q < range) :
    (accepted width range).filter (fun v => v * range / 2 ^ width = q) =
      Finset.Ico (firstWord width range q)
        (firstWord width range q + 2 ^ leading width range) := by
  ext v
  simp only [accepted, Finset.mem_filter, Finset.mem_range, Finset.mem_Ico, and_assoc]
  rw [accepts_iff hrange hwidth, firstWord_le_iff hrange, lt_firstWord_add_iff hrange]
  refine and_iff_right_of_imp ?_
  rintro ⟨-, hupper⟩
  -- the interval of the last answer ends where the words do
  refine Nat.lt_of_mul_lt_mul_right (a := range) ?_
  calc v * range < q * 2 ^ width + range * 2 ^ leading width range := hupper
    _ ≤ q * 2 ^ width + 2 ^ width := Nat.add_le_add_left (shifted_le_two_pow hrange hwidth) _
    _ = (q + 1) * 2 ^ width := (Nat.succ_mul q _).symm
    _ ≤ range * 2 ^ width := Nat.mul_le_mul_right _ hq
    _ = 2 ^ width * range := Nat.mul_comm _ _

/-- So the accepted words with one answer are as many as those with any other. -/
theorem card_accepted_answer (hrange : 0 < range) (hwidth : range < 2 ^ width) {q : Nat}
    (hq : q < range) :
    ((accepted width range).filter fun v => v * range / 2 ^ width = q).card =
      2 ^ leading width range := by
  rw [accepted_answer_eq hrange hwidth hq, Nat.card_Ico, Nat.add_sub_cancel_left]

/-- As many words are accepted as the shifted range says. -/
theorem card_accepted (hrange : 0 < range) (hwidth : range < 2 ^ width) :
    (accepted width range).card = range * 2 ^ leading width range := by
  have hanswers : Set.MapsTo (fun v => v * range / 2 ^ width) (accepted width range)
      (Finset.range range) := by
    intro v hv
    have hword : v < 2 ^ width := Finset.mem_range.1 (Finset.mem_filter.1 hv).1
    exact Finset.mem_coe.2 (Finset.mem_range.2 (answer_lt hword hrange))
  -- every accepted word has one answer, so the counts of the answers add up
  calc (accepted width range).card
      = ∑ q ∈ Finset.range range,
          ((accepted width range).filter fun v => v * range / 2 ^ width = q).card :=
        Finset.card_eq_sum_card_fiberwise hanswers
    _ = ∑ q ∈ Finset.range range, 2 ^ leading width range :=
        Finset.sum_congr rfl fun q hq =>
          card_accepted_answer hrange hwidth (Finset.mem_range.1 hq)
    _ = range * 2 ^ leading width range := by
        rw [Finset.sum_const_nat fun _ _ => rfl, Finset.card_range]

/-- The program's test of a word, as a statement about remainder and quotient. -/
theorem accept?_eq_some_iff {v : Nat} (hv : v < 2 ^ width) (hrange : 0 < range)
    (q : Fin range) :
    accept? width range v hv hrange = some q ↔
      v * range % 2 ^ width ≤ zone width range ∧ v * range / 2 ^ width = q.val := by
  rw [accept?]
  split
  · rename_i hzone
    rw [Option.some_inj, Fin.ext_iff]
    exact (and_iff_right hzone).symm
  · rename_i hzone
    exact iff_of_false (by simp) fun h => hzone h.1

end Words

/-! ## Numbers from a closed range

  The offset is drawn below the number of numbers in the range and added to the lower bound. -/

/-- How many numbers a closed range has. -/
def span (low high : UInt64) : Nat := high.toNat - low.toNat + 1

theorem span_pos (low high : UInt64) : 0 < span low high := Nat.succ_pos _

/-- What a double word is answered with when a number from a closed range is drawn; none if the
    word is rejected. -/
def answer? (low high v : UInt64) : Option UInt64 :=
  if span low high = 2 ^ 64 then some v
  else
    (accept? 64 (span low high) v.toNat v.toNat_lt (span_pos low high)).map fun offset =>
      low + UInt64.ofNat offset.val

section Ranges

variable {low high : UInt64}

theorem span_le (low high : UInt64) : span low high ≤ 2 ^ 64 := by
  have hhigh : high.toNat < 2 ^ 64 := high.toNat_lt
  rw [span]
  omega

/-- A word is answered with a number of the range if it is accepted and answered with the number's
    distance from the lower bound. -/
theorem answer?_eq_some_iff (h : low ≤ high) (hspan : span low high ≠ 2 ^ 64) (v : UInt64)
    {x : UInt64} (hlow : low ≤ x) (hhigh : x ≤ high) :
    answer? low high v = some x ↔
      v.toNat ∈ (accepted 64 (span low high)).filter fun v =>
        v * span low high / 2 ^ 64 = x.toNat - low.toNat := by
  have hlow' : low.toNat ≤ x.toNat := UInt64.le_iff_toNat_le.1 hlow
  have hhigh' : x.toNat ≤ high.toNat := UInt64.le_iff_toNat_le.1 hhigh
  have hdistance : x.toNat - low.toNat < span low high := by
    rw [span]
    omega
  have hoffset : ∀ offset : Fin (span low high),
      low + UInt64.ofNat offset.val = x ↔ offset = ⟨x.toNat - low.toNat, hdistance⟩ := by
    intro offset
    rw [← UInt64.toNat_inj, (toNat_add_offset h offset).1, Fin.ext_iff]
    dsimp only
    omega
  simp only [answer?, if_neg hspan, Option.map_eq_some_iff, hoffset, exists_eq_right, accepted,
    Finset.mem_filter, Finset.mem_range, v.toNat_lt, true_and]
  exact accept?_eq_some_iff v.toNat_lt _ _

/-- Words are as many as the numbers they stand for. -/
theorem ncard_words {p : UInt64 → Prop} (numbers : Finset Nat)
    (hsmall : ∀ n ∈ numbers, n < 2 ^ 64) (h : ∀ v, p v ↔ v.toNat ∈ numbers) :
    { v | p v }.ncard = numbers.card := by
  have himage : UInt64.toNat '' { v | p v } = numbers := by
    ext n
    constructor
    · rintro ⟨v, hv, rfl⟩
      exact (h v).1 hv
    · intro hn
      have hword : (UInt64.ofNat n).toNat = n := UInt64.toNat_ofNat_of_lt' (hsmall n hn)
      exact ⟨UInt64.ofNat n, (h _).2 (hword.symm ▸ hn), hword⟩
  rw [← Set.ncard_image_of_injective _ (fun _ _ => UInt64.toNat_inj.1), himage,
    Set.ncard_coe_finset]

/-- The shift of a range is the number of its leading zeros as a word. -/
theorem toNat_clz {range : Nat} (hrange : 0 < range) (hwidth : range < 2 ^ 64) :
    (BitVec.ofNat 64 range).clz.toNat = leading 64 range := by
  have hvalue : (BitVec.ofNat 64 range).toNat = range := by
    rw [BitVec.toNat_ofNat, Nat.mod_eq_of_lt hwidth]
  have hne : BitVec.ofNat 64 range ≠ 0#64 := by
    intro hzero
    rw [hzero] at hvalue
    exact absurd hvalue.symm hrange.ne'
  have hlower := BitVec.two_pow_sub_clz_le_toNat_of_ne_zero (by decide) hne
  have hupper := BitVec.toNat_lt_two_pow_sub_clz (x := BitVec.ofNat 64 range)
  have hshort : (BitVec.ofNat 64 range).clz.toNat < 64 := BitVec.clz_lt_iff_ne_zero.2 hne
  rw [hvalue] at hlower hupper
  have hlog : range.log2 = 64 - 1 - (BitVec.ofNat 64 range).clz.toNat := by
    rw [Nat.log2_eq_iff hrange.ne']
    refine ⟨hlower, ?_⟩
    rwa [show 64 - 1 - (BitVec.ofNat 64 range).clz.toNat + 1 =
      64 - (BitVec.ofNat 64 range).clz.toNat by omega]
  rw [leading, hlog]
  omega

/-- As many words are answered with one number of the range as with any other. -/
theorem ncard_answer (h : low ≤ high) {x : UInt64} (hlow : low ≤ x) (hhigh : x ≤ high) :
    { v | answer? low high v = some x }.ncard =
      if span low high = 2 ^ 64 then 1
      else 2 ^ (BitVec.ofNat 64 (span low high)).clz.toNat := by
  split
  · rename_i hspan
    have honly : { v | answer? low high v = some x } = {x} := by
      ext v
      rw [Set.mem_ofPred_eq, answer?, if_pos hspan, Option.some_inj, Set.mem_singleton_iff]
    rw [honly, Set.ncard_singleton]
  · rename_i hspan
    have hwidth : span low high < 2 ^ 64 := lt_of_le_of_ne (span_le low high) hspan
    have hx : x.toNat - low.toNat < span low high := by
      have := UInt64.le_iff_toNat_le.1 hhigh
      rw [span]
      omega
    rw [ncard_words _ ?_ fun v => answer?_eq_some_iff h hspan v hlow hhigh,
      card_accepted_answer (span_pos low high) hwidth hx, toNat_clz (span_pos low high) hwidth]
    intro n hn
    exact Finset.mem_range.1 (Finset.mem_filter.1 (Finset.mem_filter.1 hn).1).1

/-- At least half of the words are accepted. -/
theorem half_accepted (low high : UInt64) :
    2 ^ 63 ≤ { v | (answer? low high v).isSome }.ncard := by
  by_cases hspan : span low high = 2 ^ 64
  · rw [ncard_words (Finset.range (2 ^ 64)) (fun n hn => Finset.mem_range.1 hn),
      Finset.card_range]
    · omega
    · intro v
      rw [answer?, if_pos hspan]
      exact iff_of_true rfl (Finset.mem_range.2 v.toNat_lt)
  · have hwidth : span low high < 2 ^ 64 := lt_of_le_of_ne (span_le low high) hspan
    rw [ncard_words (accepted 64 (span low high)),
      card_accepted (span_pos low high) hwidth]
    · exact two_pow_le_shifted (span_pos low high) hwidth
    · intro n hn
      exact Finset.mem_range.1 (Finset.mem_filter.1 hn).1
    · intro v
      rw [answer?, if_neg hspan, Option.isSome_map, accept?, apply_ite Option.isSome]
      simp [accepted, v.toNat_lt]

/-- Unless every double word is taken as it is, the number is an offset from the lower bound. -/
theorem between_eq_ite {σ : Type} [WordSource σ] (h : low ≤ high) (patience : Nat) :
    between (σ := σ) patience low high =
      if span low high = 2 ^ 64 then doubleWord
      else do
        let offset ← below64 patience (span low high) (span_pos low high)
        return low + UInt64.ofNat offset.val := by
  rw [between, if_neg (UInt64.not_lt.2 h)]
  rfl

/-- Any two words in a row are a double word. -/
theorem doubleWord_ok {σ : Type} [WordSource σ] (source : σ) :
    ∃ v after, doubleWord source = .ok v after :=
  ⟨_, _, rfl⟩

/-- Drawing a number takes a double word and gives what that is answered with, or draws again. -/
theorem between_eq_answer {σ : Type} [WordSource σ] (h : low ≤ high) (patience : Nat)
    {source after : σ} {v : UInt64} (hword : doubleWord source = .ok v after) :
    between (patience + 1) low high source =
      match answer? low high v with
      | some x => .ok x after
      | none => between patience low high after := by
  rw [between_eq_ite h, between_eq_ite h, answer?]
  by_cases hspan : span low high = 2 ^ 64
  · rw [if_pos hspan, if_pos hspan]
    exact hword
  · rw [if_neg hspan, if_neg hspan, if_neg hspan]
    have hattempt : (do
        let v ← doubleWord
        pure (accept? 64 (span low high) v.toNat v.toNat_lt (span_pos low high)) : Draw σ _)
          source =
        .ok (accept? 64 (span low high) v.toNat v.toNat_lt (span_pos low high)) after :=
      run_bind_of_ok hword
    cases haccept : accept? 64 (span low high) v.toNat v.toNat_lt (span_pos low high) with
    | some offset =>
      rw [haccept] at hattempt
      exact run_bind_of_ok (run_retry_of_some hattempt patience)
    | none =>
      rw [haccept] at hattempt
      exact run_bind_congr (run_retry_of_none hattempt patience)

/-- The number that is drawn is what some double word is answered with. -/
theorem answered_of_between {σ : Type} [WordSource σ] (h : low ≤ high) {patience : Nat}
    {source after : σ} {x : UInt64} (hdraw : between patience low high source = .ok x after) :
    ∃ later v, Reaches source later ∧ doubleWord later = .ok v after ∧
      answer? low high v = some x := by
  -- by the double words that may be rejected
  induction patience generalizing source with
  | zero =>
    rw [between_eq_ite h] at hdraw
    by_cases hspan : span low high = 2 ^ 64
    · rw [if_pos hspan] at hdraw
      exact ⟨source, x, Relation.ReflTransGen.refl, hdraw, if_pos hspan⟩
    · rw [if_neg hspan] at hdraw
      cases hdraw
  | succ patience ih =>
    obtain ⟨v, next, hword⟩ := doubleWord_ok source
    rw [between_eq_answer h patience hword] at hdraw
    cases hanswer : answer? low high v with
    | some y =>
      rw [hanswer] at hdraw
      cases hdraw
      exact ⟨source, v, Relation.ReflTransGen.refl, hword, hanswer⟩
    | none =>
      rw [hanswer] at hdraw
      obtain ⟨later, w, hlater, hlast⟩ := ih hdraw
      exact ⟨later, w, (onward_doubleWord.reaches hword).trans hlater, hlast⟩

/-- **Numbers from a closed range are drawn within it and evenly.**  What is given lies in the
    range and so in every width that holds the upper bound.  It is the answer to the first double
    word that is not rejected, and the sum it comes from does not overflow.  Each number of the
    range is the answer to as many of all words: to one if the range holds all numbers, and
    otherwise to two to the power of the range's leading zeros.  At least half of all words are
    accepted. -/
theorem between_uniform {σ : Type} [WordSource σ] (h : low ≤ high) :
    (∀ patience, Gives (σ := σ) (between patience low high) fun x =>
      low ≤ x ∧ x ≤ high ∧ ∀ bits, high.toNat < 2 ^ bits → x.toNat < 2 ^ bits) ∧
    (∀ (patience : Nat) (source : σ), ∃ v after, doubleWord source = .ok v after ∧
      between (patience + 1) low high source =
        match answer? low high v with
        | some x => .ok x after
        | none => between patience low high after) ∧
    (∀ (patience : Nat) (source after : σ) (x : UInt64),
      between patience low high source = .ok x after →
        ∃ later v, Reaches source later ∧ doubleWord later = .ok v after ∧
          answer? low high v = some x) ∧
    (∀ offset : Fin (span low high),
      (low + UInt64.ofNat offset.val).toNat = low.toNat + offset.val ∧
        low.toNat + offset.val ≤ high.toNat) ∧
    (∀ x, low ≤ x → x ≤ high →
      { v | answer? low high v = some x }.ncard =
        if span low high = 2 ^ 64 then 1
        else 2 ^ (BitVec.ofNat 64 (span low high)).clz.toNat) ∧
    (span low high = 2 ^ 64 → ∀ v, answer? low high v = some v) ∧
    2 ^ 63 ≤ { v | (answer? low high v).isSome }.ncard := by
  refine ⟨?_, ?_, fun _ _ _ _ => answered_of_between h, toNat_add_offset h, ?_, ?_,
    half_accepted low high⟩
  · intro patience
    refine (gives_between patience h).mono ?_
    rintro x ⟨hlow, hhigh⟩
    exact ⟨hlow, hhigh, fun bits => lt_of_le_of_lt (UInt64.le_iff_toNat_le.1 hhigh)⟩
  · intro patience source
    obtain ⟨v, after, hword⟩ := doubleWord_ok source
    exact ⟨v, after, hword, between_eq_answer h patience hword⟩
  · intro x hlow hhigh
    exact ncard_answer h hlow hhigh
  · intro hspan v
    rw [answer?, if_pos hspan]

/-- Each number from one to three is the answer to as many words of a key stream, and each of all
    numbers to one. -/
theorem one_to_three_uniform :
    (1 : UInt64) ≤ 3 ∧
    (∀ patience, Gives (σ := KeyStream) (between patience 1 3) fun x => 1 ≤ x ∧ x ≤ 3) ∧
    (∀ x : UInt64, 1 ≤ x → x ≤ 3 → { v | answer? 1 3 v = some x }.ncard = 2 ^ 62) ∧
    (0 : UInt64) ≤ 0xffffffffffffffff ∧
    (∀ v, answer? 0 0xffffffffffffffff v = some v) := by
  have hle : (1 : UInt64) ≤ 3 := by decide
  have hfull : (0 : UInt64) ≤ 0xffffffffffffffff := by decide
  have hzeros : (BitVec.ofNat 64 (span 1 3)).clz.toNat = 62 := by decide
  obtain ⟨hgives, -, -, -, hcount, -, -⟩ := between_uniform (σ := KeyStream) hle
  refine ⟨hle, fun patience => (hgives patience).mono fun x hx => ⟨hx.1, hx.2.1⟩, ?_, hfull, ?_⟩
  · intro x hlow hhigh
    rw [hcount x hlow hhigh, if_neg (by decide), hzeros]
  · exact (between_uniform (σ := KeyStream) hfull).2.2.2.2.2.1 (by decide)

end Ranges

end Draw
end Thicket
