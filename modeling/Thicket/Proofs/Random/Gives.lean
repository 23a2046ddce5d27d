/-
  What draws give.

  A draw that is asked for something from a range that is not empty either gives it or stalls; there
  is no third way (`Gives`).  Stalling means that every word that was allowed for one number was
  rejected, so the other mishap of a draw, an empty range, cannot happen to it.

  The property goes through sequences and through redrawing, so each draw of the program has one
  lemma here that says what it gives:

  1. **Numbers** — one from a range lies in the range (`gives_between`).  The sum of lower bound and
     offset does not wrap around (`toNat_add_offset`).
  2. **Bytes** — as many as were asked for (`gives_bytes`), though they are drawn four at a time.
  3. **Items** — a choice is one of them (`gives_choose`), and a shuffle has the same ones in
     another order (`gives_shuffle`).
-/
import Thicket.Proofs.Steps
import Thicket.Random.Draw

namespace Thicket

namespace Draw

variable {σ : Type}

/-- From every source, the draw gives something of a kind, or it stalls. -/
def Gives {α : Type} (draw : Draw σ α) (kind : α → Prop) : Prop :=
  ∀ source, match draw source with
    | .ok a _ => kind a
    | .error mishap _ => mishap = .stalled

/-! ## Draws in general

  As with contracts, but with the states left out: what a draw gives does not depend on what its
  source was, except through the words. -/

theorem gives_pure {α : Type} {kind : α → Prop} {a : α} (h : kind a) :
    Gives (σ := σ) (pure a) kind :=
  fun _ => h

/-- A draw that goes on with what another one gave. -/
theorem Gives.bind {α β : Type} {draw : Draw σ α} {next : α → Draw σ β} {kind : α → Prop}
    {kind' : β → Prop} (h : Gives draw kind) (h' : ∀ a, kind a → Gives (next a) kind') :
    Gives (draw >>= next) kind' := by
  intro source
  have hdraw := h source
  cases hresult : draw source with
  | ok a after =>
    rw [hresult] at hdraw
    rw [run_bind_of_ok hresult]
    exact h' a hdraw after
  | error mishap after =>
    rw [hresult] at hdraw
    rw [run_bind_of_error hresult]
    exact hdraw

theorem Gives.mono {α : Type} {draw : Draw σ α} {kind kind' : α → Prop} (h : Gives draw kind)
    (hkind : ∀ a, kind a → kind' a) : Gives draw kind' := by
  intro source
  have hdraw := h source
  split
  · rename_i a after hresult
    rw [hresult] at hdraw
    exact hkind a hdraw
  · rename_i mishap after hresult
    rw [hresult] at hdraw
    exact hdraw

/-- Redrawing gives what an attempt gives, once one gives something. -/
theorem gives_retry {α : Type} {attempt : Draw σ (Option α)} {kind : α → Prop}
    (h : Gives attempt fun answer => ∀ a, answer = some a → kind a) (patience : Nat) :
    Gives (retry .stalled attempt patience) kind := by
  -- by the attempts that are left; only the last failure stalls
  induction patience with
  | zero => exact fun _ => rfl
  | succ patience ih =>
    refine h.bind ?_
    intro answer hanswer
    cases answer with
    | none => exact ih
    | some a => exact gives_pure (hanswer a rfl)

/-! ## The draws of the program

  Where nothing is said of what is given its type says it already: a word, a position below the
  length. -/

variable [WordSource σ]

theorem gives_word : Gives (σ := σ) word fun _ => True :=
  fun _ => trivial

/-- A double word is made of two words, so any source gives one. -/
theorem gives_doubleWord : Gives (σ := σ) doubleWord fun _ => True :=
  gives_word.bind fun _ _ => gives_word.bind fun _ _ => gives_pure trivial

/-- A number below a bound is given or the attempts run out. -/
theorem gives_below64 (patience range : Nat) (hrange : 0 < range) :
    Gives (σ := σ) (below64 patience range hrange) fun _ => True :=
  gives_retry (gives_doubleWord.bind fun _ _ => gives_pure fun _ _ => trivial) patience

theorem gives_below32 (patience range : Nat) (hrange : 0 < range) :
    Gives (σ := σ) (below32 patience range hrange) fun _ => True :=
  gives_retry (gives_word.bind fun _ _ => gives_pure fun _ _ => trivial) patience

omit [WordSource σ] in
/-- **The offset that is added to the lower bound does not lead past the upper one**, so the sum
    does not wrap around. -/
theorem toNat_add_offset {low high : UInt64} (h : low ≤ high)
    (offset : Fin (high.toNat - low.toNat + 1)) :
    (low + UInt64.ofNat offset.val).toNat = low.toNat + offset.val ∧
      low.toNat + offset.val ≤ high.toNat := by
  have hnat : low.toNat ≤ high.toNat := UInt64.le_iff_toNat_le.1 h
  have hhigh : high.toNat < 2 ^ 64 := high.toNat_lt
  have hoffset : offset.val < high.toNat - low.toNat + 1 := offset.isLt
  have hsum : low.toNat + offset.val ≤ high.toNat := by omega
  rw [UInt64.toNat_add, UInt64.toNat_ofNat', Nat.add_mod_mod, Nat.mod_eq_of_lt (by omega)]
  exact ⟨rfl, hsum⟩

/-- **A number from a range that is not empty lies in it.** -/
theorem gives_between (patience : Nat) {low high : UInt64} (h : low ≤ high) :
    Gives (σ := σ) (between patience low high) fun v => low ≤ v ∧ v ≤ high := by
  have hnat : low.toNat ≤ high.toNat := UInt64.le_iff_toNat_le.1 h
  have hbound : high.toNat < 2 ^ 64 := high.toNat_lt
  rw [between, if_neg (by rw [UInt64.lt_iff_toNat_lt]; omega)]
  dsimp only
  split
  · rename_i hfull
    -- the range of all numbers holds every double word
    refine gives_doubleWord.mono ?_
    intro v _
    have hv : v.toNat < 2 ^ 64 := v.toNat_lt
    rw [UInt64.le_iff_toNat_le, UInt64.le_iff_toNat_le]
    omega
  · -- any other range is the lower bound and an offset
    refine (gives_below64 patience _ _).bind ?_
    intro offset _
    refine gives_pure ?_
    obtain ⟨hsum, hhigh⟩ := toNat_add_offset h offset
    rw [UInt64.le_iff_toNat_le, UInt64.le_iff_toNat_le, hsum]
    omega

theorem gives_index (patience length : Nat) (h : 0 < length) :
    Gives (σ := σ) (index patience length h) fun _ => True := by
  rw [index]
  split
  · exact gives_below32 patience length h
  · exact gives_below64 patience length h

theorem gives_unit : Gives (σ := σ) unit fun _ => True :=
  gives_doubleWord.bind fun _ _ => gives_pure trivial

theorem size_foldl_push (more : List UInt8) (bytes : ByteArray) :
    (more.foldl ByteArray.push bytes).size = bytes.size + more.length := by
  induction more generalizing bytes with
  | nil => rfl
  | cons byte more ih =>
    rw [List.foldl_cons, ih, ByteArray.size_push, List.length_cons]
    omega

theorem gives_pushWords (count : Nat) (bytes : ByteArray) :
    Gives (σ := σ) (pushWords count bytes) fun drawn => drawn.size = bytes.size + 4 * count := by
  induction count generalizing bytes with
  | zero => exact gives_pure rfl
  | succ count ih =>
    refine gives_word.bind ?_
    intro w _
    refine (ih _).mono ?_
    intro drawn hdrawn
    rw [hdrawn, size_foldl_push]
    simp only [wordBytes, List.length_cons, List.length_nil]
    omega

/-- **As many bytes are drawn as were asked for.** -/
theorem gives_bytes (length : Nat) :
    Gives (σ := σ) (bytes length) fun drawn => drawn.size = length := by
  refine (gives_pushWords _ _).bind ?_
  intro drawn hdrawn
  refine gives_pure ?_
  rw [ByteArray.size_extract, hdrawn, ByteArray.size_empty]
  omega

/-- A choice is one of the items, and there is none only where there are no items. -/
theorem gives_choose {α : Type} (patience : Nat) (items : Array α) :
    Gives (σ := σ) (choose patience items) fun
      | some a => a ∈ items
      | none => items = #[] := by
  rw [choose]
  split
  · rename_i h
    exact (gives_index patience _ h).bind fun place _ => gives_pure (Array.getElem_mem place.isLt)
  · rename_i h
    exact gives_pure (Array.eq_empty_of_size_eq_zero (by omega))

/-- A shuffle only exchanges places, and every place it draws is there. -/
theorem gives_shuffleUpTo {α : Type} {n : Nat} (patience last : Nat) (h : last < n)
    (items : Vector α n) :
    Gives (σ := σ) (shuffleUpTo patience last h items) fun shuffled => shuffled.Perm items := by
  induction last generalizing items with
  | zero => exact gives_pure Vector.Perm.rfl
  | succ last ih =>
    -- an exchange at the last place, and a shuffle of the places before it
    refine (gives_index _ _ _).bind fun other _ => ?_
    refine (ih _ _).mono ?_
    intro shuffled hshuffled
    exact hshuffled.trans (Vector.swap_perm _ _)

/-- **A shuffle loses no item and adds none.** -/
theorem gives_shuffle {α : Type} (patience : Nat) (items : Array α) :
    Gives (σ := σ) (shuffle patience items) fun shuffled => shuffled.Perm items := by
  rw [shuffle]
  split
  · exact (gives_shuffleUpTo _ _ _ _).bind fun _ hshuffled => gives_pure hshuffled.toArray
  · exact gives_pure (Array.Perm.refl items)

end Draw

end Thicket
