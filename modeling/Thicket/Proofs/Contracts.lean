/-
  Contracts of steps.

  A contract says what has to hold before a step, what holds where it gives an answer, and what
  holds where it ends early (`Meets`).  Both ends see the state, for a step that ends early leaves
  things behind: a source that was drawn from, a disk with half a tree on it.

  Contracts go through sequences (`Meets.bind`), choices (`meets_ite`) and redrawing
  (`Meets.retry`), so those of a program come from those of its steps.  In a sequence both steps
  end early into the same condition; what holds between them may be anything.
-/
import Thicket.Proofs.Steps
import Thicket.Random.Draw

namespace Thicket

variable {ε τ α β : Type} {pre : τ → Prop} {post : α → τ → Prop} {halts : ε → τ → Prop}

/-- Started where `pre` holds, the step gives an answer where `post` holds, or it ends early where
    `halts` does. -/
def Meets (pre : τ → Prop) (step : EStateM ε τ α) (post : α → τ → Prop) (halts : ε → τ → Prop) :
    Prop :=
  ∀ state, pre state → match step state with
    | .ok a after => post a after
    | .error reason after => halts reason after

theorem meets_pure {a : α} (h : ∀ state, pre state → post a state) :
    Meets pre (pure a) post halts :=
  h

/-- What holds after the first step is what the second one starts from. -/
theorem Meets.bind {middle : α → τ → Prop} {post : β → τ → Prop} {step : EStateM ε τ α}
    {next : α → EStateM ε τ β} (h : Meets pre step middle halts)
    (h' : ∀ a, Meets (middle a) (next a) post halts) : Meets pre (step >>= next) post halts := by
  intro state hpre
  have hstep := h state hpre
  cases hresult : step state with
  | ok a after =>
    rw [hresult] at hstep
    rw [run_bind_of_ok hresult]
    exact h' a after hstep
  | error reason after =>
    rw [hresult] at hstep
    rw [run_bind_of_error hresult]
    exact hstep

theorem Meets.of_pre {pre' : τ → Prop} {step : EStateM ε τ α} (h : Meets pre step post halts)
    (hpre : ∀ state, pre' state → pre state) : Meets pre' step post halts :=
  fun state hstate => h state (hpre state hstate)

/-- A contract promises what follows from its promise. -/
theorem Meets.imp {post' : α → τ → Prop} {step : EStateM ε τ α} (h : Meets pre step post halts)
    (hpost : ∀ a state, post a state → post' a state) : Meets pre step post' halts := by
  intro state hpre
  have hstep := h state hpre
  cases hresult : step state with
  | ok a after =>
    rw [hresult] at hstep
    exact hpost a after hstep
  | error reason after =>
    rw [hresult] at hstep
    exact hstep

/-- Once the state was looked at, what follows knows it. -/
theorem meets_get {next : τ → EStateM ε τ α}
    (h : ∀ seen, Meets (fun state => pre state ∧ state = seen) (next seen) post halts) :
    Meets pre (get >>= next) post halts :=
  fun state hpre => h state state ⟨hpre, rfl⟩

/-- A change has to lead to where the contract wants it. -/
theorem meets_modify {post : PUnit → τ → Prop} {change : τ → τ}
    (h : ∀ state, pre state → post ⟨⟩ (change state)) :
    Meets pre (modify change) post halts :=
  h

/-- A choice meets a contract that both of its branches meet; the condition may be forgotten. -/
theorem meets_ite {condition : Prop} [Decidable condition] {yes no : EStateM ε τ α}
    (hyes : Meets pre yes post halts) (hno : Meets pre no post halts) :
    Meets pre (if condition then yes else no) post halts := by
  by_cases h : condition
  · rw [if_pos h]
    exact hyes
  · rw [if_neg h]
    exact hno

/-- Redrawing: an attempt that gives nothing leaves everything ready for the next one, and one
    that gives something ends the redrawing. -/
theorem Meets.retry {giveUp : ε} {attempt : EStateM ε τ (Option α)}
    (hgiveUp : ∀ state, pre state → halts giveUp state)
    (h : Meets pre attempt (fun answer state =>
      match answer with
      | some a => post a state
      | none => pre state) halts) (patience : Nat) :
    Meets pre (Draw.retry giveUp attempt patience) post halts := by
  -- by the attempts that are left, with the same condition before each of them
  induction patience with
  | zero => exact hgiveUp
  | succ patience ih =>
    refine h.bind ?_
    intro answer
    cases answer with
    | none => exact ih
    | some a => exact meets_pure fun _ hpost => hpost

end Thicket
