/-
  Where draws leave their source.

  A draw takes words from its source one after the other and puts none back.  So where it gives
  something the source has come to a later state (`Reaches`), whatever was drawn and however often
  a word was rejected.

  `Onward` is the contract of a draw that says so, for every state that the source may have come
  from.  It goes through sequences and redrawing, and each draw of the program has one lemma here,
  by the draws that it is made of.  Nothing is said of a draw that stalls: it ends the run.

  What a later state is good for: if a source has a property that its words cannot take away, such
  as that there are still fit words ahead, then a tree can be followed from draw to draw with it.
-/
import Thicket.Proofs.Contracts
import Mathlib.Logic.Relation

namespace Thicket

/-- Taking words, one after the other, leads from one state of a source to the other. -/
def WordSource.Reaches {σ : Type} [WordSource σ] : σ → σ → Prop :=
  Relation.ReflTransGen fun source after => (WordSource.next source).2 = after

namespace Draw

open WordSource

variable {σ α β : Type} [WordSource σ]

/-- Where the draw gives something, it has led its source on. -/
def Onward (draw : Draw σ α) : Prop :=
  ∀ start, Meets (Reaches start) draw (fun _ => Reaches start) fun _ _ => True

/-- Where a draw gives something its source has come to a later state. -/
theorem Onward.reaches {draw : Draw σ α} (h : Onward draw) {source after : σ} {a : α}
    (hdraw : draw source = .ok a after) : Reaches source after := by
  have hafter := h source source Relation.ReflTransGen.refl
  rw [hdraw] at hafter
  exact hafter

/-! ## Draws in general

  The two rules and the redrawing, of which everything else is made. -/

theorem onward_pure (a : α) : Onward (σ := σ) (pure a) :=
  fun _ => meets_pure fun _ h => h

/-- One draw after the other leads on, and on again. -/
theorem Onward.bind {draw : Draw σ α} {next : α → Draw σ β} (h : Onward draw)
    (h' : ∀ a, Onward (next a)) : Onward (draw >>= next) :=
  fun start => (h start).bind fun a => h' a start

/-- Redrawing leads on by every attempt, the rejected ones too. -/
theorem Onward.retry {attempt : Draw σ (Option α)} (h : Onward attempt) (patience : Nat) :
    Onward (retry .stalled attempt patience) := by
  intro start
  refine Meets.retry (fun _ _ => trivial) ?_ patience
  intro source hsource
  have hattempt := h start source hsource
  -- an attempt leads on, whether it gives something or not
  split
  · rename_i answer after hresult
    rw [hresult] at hattempt
    cases answer <;> exact hattempt
  · trivial

/-! ## The draws of the program

  In the order of their definitions, from a single word to a choice among items. -/

theorem onward_word : Onward (σ := σ) word :=
  fun _ _ h => h.tail rfl

/-- A double word takes two of them. -/
theorem onward_doubleWord : Onward (σ := σ) doubleWord :=
  onward_word.bind fun _ => onward_word.bind fun _ => onward_pure _

/-- A number below a bound of 64 bits: double words are redrawn until one is accepted. -/
theorem onward_below64 (patience range : Nat) (hrange : 0 < range) :
    Onward (σ := σ) (below64 patience range hrange) :=
  (onward_doubleWord.bind fun _ => onward_pure _).retry patience

/-- A number below a bound of 32 bits: the same with single words. -/
theorem onward_below32 (patience range : Nat) (hrange : 0 < range) :
    Onward (σ := σ) (below32 patience range hrange) :=
  (onward_word.bind fun _ => onward_pure _).retry patience

/-- A number from a range, for any bounds: an empty range gives nothing at all. -/
theorem onward_between (patience : Nat) (low high : UInt64) :
    Onward (σ := σ) (between patience low high) := by
  rw [between]
  split
  · -- from an empty range nothing is given
    exact fun _ _ _ => trivial
  · dsimp only
    split
    · exact onward_doubleWord
    · exact (onward_below64 _ _ _).bind fun _ => onward_pure _

/-- A position in a list, which is drawn by words or by double words as the length requires. -/
theorem onward_index (patience length : Nat) (h : 0 < length) :
    Onward (σ := σ) (index patience length h) := by
  rw [index]
  split
  · exact onward_below32 patience length h
  · exact onward_below64 patience length h

/-- A fraction of one is made of a double word. -/
theorem onward_unit : Onward (σ := σ) unit :=
  onward_doubleWord.bind fun _ => onward_pure _

/-- Words appended to what was drawn before, by induction on how many are left. -/
theorem onward_pushWords (count : Nat) (bytes : ByteArray) :
    Onward (σ := σ) (pushWords count bytes) := by
  induction count generalizing bytes with
  | zero => exact onward_pure bytes
  | succ count ih => exact onward_word.bind fun _ => ih _

/-- Bytes are drawn as words, the last one perhaps cut off. -/
theorem onward_bytes (length : Nat) : Onward (σ := σ) (bytes length) :=
  (onward_pushWords _ _).bind fun _ => onward_pure _

/-- A choice among items draws its position, and nothing where there are none. -/
theorem onward_choose {α : Type} (patience : Nat) (items : Array α) :
    Onward (σ := σ) (choose patience items) := by
  rw [choose]
  split
  · exact (onward_index _ _ _).bind fun _ => onward_pure _
  · exact onward_pure none

end Draw

end Thicket
