/-
  What more patience changes.

  Patience bounds how often a rejected word, or a tag that a file has already, is drawn again.  It
  decides nothing else: a step that ends otherwise than by giving up does the same, word for word,
  under all greater patience (`Lasting`).  So a step whose patience never ran out is the step that
  is never cut short, and the bound can be read as no bound at all.

  1. **Steps that last** — sequences, choices and redrawing of steps that last do, so the draws of
     the program last.  The crux is redrawing (`Lasting.retry`), where patience is both the number
     of attempts and what each attempt is given; the induction is on the first alone.
  2. **Steps that settle** — from some patience on the step has one result (`Settles`).  A step
     that lasts has settled as soon as it has ended otherwise than by giving up.
  3. **Sources that refuse** — where patience keeps running out there is a reason in the source.
     A number below a bound is drawn after enough words, or else every word still to come is
     rejected (`below32_settles`); so a shuffle comes to its end unless the source dries up
     (`shuffle_settles`).
  4. **Sources that answer** — the other way round, from a source that has an accepted word ahead
     for every range each draw of the program gets something.  The stream of a seed may be such a
     source or not: nothing in the program says so, and it is a hypothesis wherever it is needed.
-/
import Thicket.Proofs.Random.Onward

namespace Thicket

variable {ε τ α β : Type}

/-! ## Redrawing

  One attempt more is one attempt, and then, if it gave nothing, redrawing with the patience
  before. -/

/-- An attempt that gives something ends the redrawing. -/
theorem run_retry_of_some {giveUp : ε} {attempt : EStateM ε τ (Option α)} {a : α}
    {state after : τ} (h : attempt state = .ok (some a) after) (patience : Nat) :
    Draw.retry giveUp attempt (patience + 1) state = .ok a after := by
  rw [Draw.retry, run_bind_of_ok h]
  rfl

/-- One that gives nothing uses up some patience. -/
theorem run_retry_of_none {giveUp : ε} {attempt : EStateM ε τ (Option α)} {state after : τ}
    (h : attempt state = .ok none after) (patience : Nat) :
    Draw.retry giveUp attempt (patience + 1) state = Draw.retry giveUp attempt patience after := by
  rw [Draw.retry, run_bind_of_ok h]

theorem run_retry_of_error {giveUp reason : ε} {attempt : EStateM ε τ (Option α)}
    {state after : τ} (h : attempt state = .error reason after) (patience : Nat) :
    Draw.retry giveUp attempt (patience + 1) state = .error reason after := by
  rw [Draw.retry, run_bind_of_error h]

/-! ## Steps that last

  What ends with giving up is the one result that more patience may change. -/

/-- Unless the step gives up, it does the same under all greater patience. -/
def Lasting (giveUp : ε) (step : Nat → EStateM ε τ α) : Prop :=
  ∀ patience more state, patience ≤ more →
    (∀ after, step patience state ≠ .error giveUp after) → step more state = step patience state

section Lasting

variable {giveUp : ε}

/-- A step without patience. -/
theorem lasting_const (step : EStateM ε τ α) : Lasting giveUp fun _ => step :=
  fun _ _ _ _ _ => rfl

/-- A sequence gives up if one of its parts does, so if it does not, both go on as they did. -/
theorem Lasting.bind {step : Nat → EStateM ε τ α} {next : Nat → α → EStateM ε τ β}
    (h : Lasting giveUp step) (h' : ∀ a, Lasting giveUp fun patience => next patience a) :
    Lasting giveUp fun patience => step patience >>= next patience := by
  intro patience more state hmore hends
  dsimp only at hends ⊢
  cases hresult : step patience state with
  | ok a after =>
    have hstep : step more state = .ok a after := by
      rw [h patience more state hmore (by simp [hresult]), hresult]
    rw [run_bind_of_ok hresult] at hends
    rw [run_bind_of_ok hstep, run_bind_of_ok hresult]
    exact h' a patience more after hmore hends
  | error reason after =>
    have hother : ∀ after', step patience state ≠ .error giveUp after' := by
      intro after' hgiveUp
      exact hends after' (run_bind_of_error hgiveUp)
    have hstep : step more state = .error reason after := by
      rw [h patience more state hmore hother, hresult]
    rw [run_bind_of_error hstep, run_bind_of_error hresult]

/-- Of a choice whose condition has nothing to do with patience, one branch is taken every time. -/
theorem Lasting.ite (condition : Prop) [Decidable condition] {yes no : Nat → EStateM ε τ α}
    (hyes : Lasting giveUp yes) (hno : Lasting giveUp no) :
    Lasting giveUp fun patience => if condition then yes patience else no patience := by
  by_cases h : condition
  · simpa only [if_pos h] using hyes
  · simpa only [if_neg h] using hno

/-- Redrawing lasts if its attempts do: as long as one is left it is the same attempt. -/
theorem Lasting.retry {attempt : Nat → EStateM ε τ (Option α)} (h : Lasting giveUp attempt) :
    Lasting giveUp fun patience => Draw.retry giveUp (attempt patience) patience := by
  -- the number of attempts is a patience of its own, and the induction is on that
  have hcounts : ∀ count count' patience more state, count ≤ count' → patience ≤ more →
      (∀ after, Draw.retry giveUp (attempt patience) count state ≠ .error giveUp after) →
        Draw.retry giveUp (attempt more) count' state =
          Draw.retry giveUp (attempt patience) count state := by
    intro count
    induction count with
    | zero =>
      intro count' patience more state _ _ hends
      exact absurd rfl (hends state)
    | succ count ih =>
      intro count' patience more state hcount hmore hends
      obtain ⟨count', rfl⟩ :=
        Nat.exists_eq_add_of_le' (Nat.le_trans (Nat.le_add_left 1 count) hcount)
      cases hresult : attempt patience state with
      | ok answer after =>
        have hmoreResult := h patience more state hmore (by simp [hresult])
        rw [hresult] at hmoreResult
        cases answer with
        | some a => rw [run_retry_of_some hresult, run_retry_of_some hmoreResult]
        | none =>
          rw [run_retry_of_none hresult] at hends ⊢
          rw [run_retry_of_none hmoreResult]
          exact ih count' patience more after (by omega) hmore hends
      | error reason after =>
        have hother : ∀ after', attempt patience state ≠ .error giveUp after' := by
          intro after' hgiveUp
          exact hends after' (run_retry_of_error hgiveUp count)
        have hmoreResult := h patience more state hmore hother
        rw [hresult] at hmoreResult
        rw [run_retry_of_error hresult, run_retry_of_error hmoreResult]
  intro patience more state hmore hends
  exact hcounts patience more patience more state hmore hmore hends

end Lasting

/-! ## Steps that settle

  Settling is about one state: from others the step may need more patience, or give up for ever. -/

/-- Under all patience, from some on, the step ends in this way. -/
def Settles (step : Nat → EStateM ε τ α) (state : τ) (result : EStateM.Result ε τ α) : Prop :=
  ∃ enough, ∀ patience, enough ≤ patience → step patience state = result

section Settles

variable {giveUp : ε} {step : Nat → EStateM ε τ α} {state after : τ}

/-- A step that has ended otherwise than by giving up has settled. -/
theorem Lasting.settles (h : Lasting giveUp step) {patience : Nat}
    {result : EStateM.Result ε τ α} (hresult : step patience state = result)
    (hends : ∀ after, result ≠ .error giveUp after) : Settles step state result := by
  refine ⟨patience, fun more hmore => ?_⟩
  rw [h patience more state hmore (hresult ▸ hends), hresult]

/-- In particular a step that has given something has settled. -/
theorem Lasting.settles_of_ok (h : Lasting giveUp step) {patience : Nat} {a : α}
    (hresult : step patience state = .ok a after) : Settles step state (.ok a after) :=
  h.settles hresult fun _ herror => nomatch herror

/-- A sequence has settled from where both of its parts have. -/
theorem Settles.bind {next : Nat → α → EStateM ε τ β} {a : α} {result : EStateM.Result ε τ β}
    (h : Settles step state (.ok a after))
    (h' : Settles (fun patience => next patience a) after result) :
    Settles (fun patience => step patience >>= next patience) state result := by
  obtain ⟨enough, hstep⟩ := h
  obtain ⟨enough', hnext⟩ := h'
  refine ⟨max enough enough', fun patience hpatience => ?_⟩
  dsimp only
  rw [run_bind_of_ok (hstep patience (by omega))]
  exact hnext patience (by omega)

/-- A sequence whose first part ends early never comes to the second. -/
theorem Settles.bind_error {reason : ε} (next : Nat → α → EStateM ε τ β)
    (h : Settles step state (.error reason after)) :
    Settles (fun patience => step patience >>= next patience) state (.error reason after) := by
  obtain ⟨enough, hstep⟩ := h
  refine ⟨enough, fun patience hpatience => ?_⟩
  exact run_bind_of_error (hstep patience hpatience)

/-- What is made of an answer without drawing is settled with it. -/
theorem Settles.bind_pure {a : α} (h : Settles step state (.ok a after)) (f : α → β) :
    Settles (fun patience => step patience >>= fun a => pure (f a)) state (.ok (f a) after) :=
  h.bind ⟨0, fun _ _ => rfl⟩

end Settles

namespace Draw

open WordSource

variable {σ : Type} [WordSource σ]

/-! ## The draws of the program

  Each is put together from those before it; words need no patience. -/

theorem lasting_below64 (range : Nat) (hrange : 0 < range) :
    Lasting (τ := σ) Mishap.stalled fun patience => below64 patience range hrange :=
  (lasting_const _).retry

theorem lasting_below32 (range : Nat) (hrange : 0 < range) :
    Lasting (τ := σ) Mishap.stalled fun patience => below32 patience range hrange :=
  (lasting_const _).retry

/-- A position in a list; how long the list is decides by what words. -/
theorem lasting_index (length : Nat) (h : 0 < length) :
    Lasting (τ := σ) Mishap.stalled fun patience => index patience length h :=
  (lasting_below32 length h).ite _ (lasting_below64 length h)

/-- A number from a range.  An empty range is refused without giving up. -/
theorem lasting_between (low high : UInt64) :
    Lasting (τ := σ) Mishap.stalled fun patience => between patience low high :=
  (lasting_const (throw .emptyRange)).ite _ ((lasting_const doubleWord).ite _
    ((lasting_below64 _ _).bind fun offset => lasting_const (pure (low + UInt64.ofNat offset.val))))

theorem lasting_choose (items : Array α) :
    Lasting (τ := σ) Mishap.stalled fun patience => choose patience items := by
  by_cases h : 0 < items.size
  · simpa only [choose, dif_pos h] using
      (lasting_index _ h).bind fun place => lasting_const (pure (some items[place]))
  · simpa only [choose, dif_neg h] using lasting_const (pure none)

/-! ## Sources that refuse

  A rejected word is lost, so what counts is the words to come.  Classically there is an
  accepted one among them, or there is none. -/

/-- No word that is still to come is accepted for the range. -/
def Refuses (range : Nat) (source : σ) : Prop :=
  ∀ later, Reaches source later →
    zone 32 range < (WordSource.next later).1.toNat * range % 2 ^ 32

/-- Drawing a number takes a word and gives what that is answered with, or draws again. -/
theorem below32_succ (patience range : Nat) (hrange : 0 < range) (source : σ) :
    below32 (patience + 1) range hrange source =
      match accept? 32 range (WordSource.next source).1.toNat (UInt32.toNat_lt _) hrange with
      | some a => .ok a (WordSource.next source).2
      | none => below32 patience range hrange (WordSource.next source).2 := by
  have hattempt : (do
      let v ← word
      pure (accept? 32 range v.toNat v.toNat_lt hrange) : Draw σ (Option (Fin range))) source =
      .ok (accept? 32 range (WordSource.next source).1.toNat (UInt32.toNat_lt _) hrange)
        (WordSource.next source).2 := rfl
  cases hword : accept? 32 range (WordSource.next source).1.toNat (UInt32.toNat_lt _) hrange with
  | some a =>
    rw [hword] at hattempt
    exact run_retry_of_some hattempt patience
  | none =>
    rw [hword] at hattempt
    exact run_retry_of_none hattempt patience

/-- If some word to come would be accepted, a number is drawn: from that word or one before it. -/
theorem below32_settles_of_accepted {range : Nat} (hrange : 0 < range) {source later : σ}
    (hlater : Reaches source later)
    (haccepted : (WordSource.next later).1.toNat * range % 2 ^ 32 ≤ zone 32 range) :
    ∃ a after, Reaches source after ∧
      Settles (fun patience => below32 patience range hrange) source (.ok a after) := by
  have hhere : ∀ {source : σ} {a : Fin range},
      accept? 32 range (WordSource.next source).1.toNat (UInt32.toNat_lt _) hrange = some a →
      Settles (fun patience => below32 patience range hrange) source
        (.ok a (WordSource.next source).2) := by
    intro source a hword
    have hdraw := below32_succ 0 range hrange source
    rw [hword] at hdraw
    exact (lasting_below32 range hrange).settles_of_ok hdraw
  -- from the accepted word back to the first one
  induction hlater using Relation.ReflTransGen.head_induction_on with
  | refl => exact ⟨_, _, Relation.ReflTransGen.single rfl, hhere (if_pos haccepted)⟩
  | @head source next hnext _ ih =>
    subst hnext
    cases hword : accept? 32 range (WordSource.next source).1.toNat (UInt32.toNat_lt _) hrange with
    | some a => exact ⟨a, _, Relation.ReflTransGen.single rfl, hhere hword⟩
    | none =>
      obtain ⟨a, after, hafter, enough, henough⟩ := ih
      refine ⟨a, after, hafter.head rfl, enough + 1, ?_⟩
      intro patience hpatience
      obtain ⟨less, rfl⟩ := Nat.exists_eq_add_of_le hpatience
      dsimp only
      rw [Nat.add_right_comm, below32_succ, hword]
      exact henough (enough + less) (Nat.le_add_right enough less)

/-- **A number is drawn after enough words, or every word still to come is rejected.** -/
theorem below32_settles (range : Nat) (hrange : 0 < range) (source : σ) :
    (∃ a after, Reaches source after ∧
      Settles (fun patience => below32 patience range hrange) source (.ok a after)) ∨
    Refuses range source := by
  refine Classical.or_iff_not_imp_left.2 ?_
  intro hnever later hlater
  refine Nat.lt_of_not_le ?_
  intro haccepted
  exact hnever (below32_settles_of_accepted hrange hlater haccepted)

/-- From some point on every word is rejected for one number of places, which is at least two and at
    most the given one. -/
def DriesUp (most : Nat) (source : σ) : Prop :=
  ∃ later length, Reaches source later ∧ 2 ≤ length ∧ length ≤ most ∧ Refuses length later

/-- A shuffle comes to its end, unless the source dries up. -/
theorem shuffleUpTo_settles {n : Nat} (last : Nat) (h : last < n) (hshort : n < 2 ^ 32)
    (items : Vector α n) (source : σ) :
    (∃ shuffled after, Reaches source after ∧
      Settles (fun patience => shuffleUpTo patience last h items) source (.ok shuffled after)) ∨
    DriesUp n source := by
  induction last generalizing items source with
  | zero => exact Or.inl ⟨items, source, Relation.ReflTransGen.refl, 0, fun _ _ => rfl⟩
  | succ last ih =>
    rcases below32_settles (last + 2) (Nat.succ_pos _) source with
      ⟨other, after, hafter, hother⟩ | hrefuses
    · have hindex : Settles (fun patience => index patience (last + 2) (Nat.succ_pos _)) source
          (.ok other after) := by
        -- so few places are drawn by words and not by double words
        simpa only [index, if_pos (show last + 2 < 2 ^ 32 by omega)] using hother
      rcases ih (by omega) (items.swap (last + 1) other.val h (by omega)) after with
        ⟨shuffled, final, hfinal, hrest⟩ | ⟨later, length, hlater, hrest⟩
      · exact Or.inl ⟨shuffled, final, hafter.trans hfinal, hindex.bind hrest⟩
      · exact Or.inr ⟨later, length, hafter.trans hlater, hrest⟩
    · exact Or.inr ⟨source, last + 2, Relation.ReflTransGen.refl, by omega, by omega, hrefuses⟩

/-- **A shuffle comes to its end after enough words, unless the source dries up.** -/
theorem shuffle_settles (items : Array α) (hshort : items.size < 2 ^ 32) (source : σ) :
    (∃ shuffled after, Reaches source after ∧
      Settles (fun patience => shuffle patience items) source (.ok shuffled after)) ∨
    DriesUp items.size source := by
  by_cases h : 0 < items.size
  · refine (shuffleUpTo_settles (items.size - 1) (by omega) hshort items.toVector
      source).imp_left ?_
    rintro ⟨shuffled, after, hafter, hsettles⟩
    refine ⟨shuffled.toArray, after, hafter, ?_⟩
    simpa only [shuffle, dif_pos h] using hsettles.bind_pure fun shuffled => shuffled.toArray
  · refine Or.inl ⟨items, source, Relation.ReflTransGen.refl, 0, fun _ _ => ?_⟩
    simp only [shuffle, dif_neg h]
    rfl

/-! ## Sources that answer

  This is the condition under which a run that draws numbers, positions and choices never gives
  up. -/

/-- Whatever number from a range is asked of the source, now or later, it is drawn with patience
    enough. -/
def Answers (source : σ) : Prop :=
  ∀ later, Reaches source later → ∀ (range : Nat) (hrange : 0 < range),
    (∃ patience a after, below32 patience range hrange later = .ok a after) ∧
      ∃ patience a after, below64 patience range hrange later = .ok a after

namespace Answers

variable {source later : σ}

theorem of_reaches (h : Answers source) (hlater : Reaches source later) : Answers later :=
  fun last hlast => h last (hlater.trans hlast)

theorem index (h : Answers source) (length : Nat) (hlength : 0 < length) :
    ∃ patience place after, Draw.index patience length hlength source = .ok place after := by
  obtain ⟨h32, h64⟩ := h source Relation.ReflTransGen.refl length hlength
  by_cases hshort : length < 2 ^ 32
  · simpa only [Draw.index, if_pos hshort] using h32
  · simpa only [Draw.index, if_neg hshort] using h64

theorem choose (h : Answers source) (items : Array α) :
    ∃ patience choice after, Draw.choose patience items source = .ok choice after := by
  by_cases hsome : 0 < items.size
  · obtain ⟨patience, place, after, hplace⟩ := h.index items.size hsome
    refine ⟨patience, some items[place], after, ?_⟩
    rw [Draw.choose, dif_pos hsome, run_bind_of_ok hplace]
    rfl
  · refine ⟨0, none, source, ?_⟩
    rw [Draw.choose, dif_neg hsome]
    rfl

theorem between (h : Answers source) {low high : UInt64} (hrange : low ≤ high) :
    ∃ patience number after, Draw.between patience low high source = .ok number after := by
  have hsome : ¬ high < low := UInt64.not_lt.2 hrange
  by_cases hfull : high.toNat - low.toNat + 1 = 2 ^ 64
  · obtain ⟨number, after, hword⟩ : ∃ number after, doubleWord source = .ok number after :=
      ⟨_, _, rfl⟩
    refine ⟨0, number, after, ?_⟩
    rw [Draw.between, if_neg hsome, if_pos hfull, hword]
  · obtain ⟨patience, offset, after, hoffset⟩ :=
      (h source Relation.ReflTransGen.refl (high.toNat - low.toNat + 1) (Nat.succ_pos _)).2
    refine ⟨patience, low + UInt64.ofNat offset.val, after, ?_⟩
    rw [Draw.between, if_neg hsome, if_neg hfull, run_bind_of_ok hoffset]
    rfl

end Answers

/-- What the double words to come are enough for, they are enough for with one more before them. -/
theorem exists_below64_of_next {range : Nat} {hrange : 0 < range} {v : UInt64} {source next : σ}
    (hword : doubleWord source = .ok v next)
    (hnext : ∃ patience a after, below64 patience range hrange next = .ok a after) :
    ∃ patience a after, below64 patience range hrange source = .ok a after := by
  obtain ⟨patience, a, after, hrest⟩ := hnext
  have hattempt : (do
      let v ← doubleWord
      pure (accept? 64 range v.toNat v.toNat_lt hrange) : Draw σ (Option (Fin range))) source =
        .ok (accept? 64 range v.toNat v.toNat_lt hrange) next := by
    rw [run_bind_of_ok hword]
    rfl
  cases hv : accept? 64 range v.toNat v.toNat_lt hrange with
  | some b =>
    rw [hv] at hattempt
    exact ⟨1, b, next, run_retry_of_some hattempt 0⟩
  | none =>
    rw [hv] at hattempt
    exact ⟨patience + 1, a, after, (run_retry_of_none hattempt patience).trans hrest⟩

/-- From a single item the choice is certain once its place is drawn. -/
theorem choose_singleton {patience : Nat} {item : α} {source after : σ} {place : Fin 1}
    (h : index patience 1 Nat.one_pos source = .ok place after) :
    choose patience #[item] source = .ok (some item) after := by
  have hone : 0 < #[item].size := Nat.one_pos
  rw [choose, dif_pos hone]
  refine (run_bind_of_ok h).trans ?_
  rw [Subsingleton.elim place 0]
  rfl

end Draw

end Thicket
