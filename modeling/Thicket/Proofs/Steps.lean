/-
  Running steps one after the other.

  Draws, acts, makings, writings and sketches are steps of one kind: from a state to an answer, or
  to a reason for ending, and a new state.  Two equations say how a sequence of two runs
  (`run_bind_of_ok`, `run_bind_of_error`), and two what the smallest steps do; that is all that is
  ever needed of them.

  A result can also be read in parts: the answer, the state that is left, and the reason with the
  state in which the step ended early.  Where two programs are compared that keep different
  states, only these parts can agree.
-/
namespace Thicket

variable {ε τ α β : Type} {step : EStateM ε τ α} {next : α → EStateM ε τ β} {state after : τ}

/-- After a step that gives an answer the next one runs. -/
theorem run_bind_of_ok {a : α} (h : step state = .ok a after) :
    (step >>= next) state = next a after := by
  simp [Bind.bind, EStateM.bind, h]

/-- A step that ends early ends the sequence. -/
theorem run_bind_of_error {reason : ε} (h : step state = .error reason after) :
    (step >>= next) state = .error reason after := by
  simp [Bind.bind, EStateM.bind, h]

/-- Sequences go on alike after steps that end alike. -/
theorem run_bind_congr {step' : EStateM ε τ α} {state' : τ} (h : step state = step' state') :
    (step >>= next) state = (step' >>= next) state' := by
  simp [Bind.bind, EStateM.bind, h]

/-- Looking at the state gives it. -/
theorem run_get : (get : EStateM ε τ τ) state = .ok state state := rfl

theorem run_modify (change : τ → τ) :
    (modify change : EStateM ε τ PUnit) state = .ok ⟨⟩ (change state) := rfl

/-! ## The parts of a result -/

/-- The state that a step leaves behind, however it ends. -/
def stateLeft : EStateM.Result ε τ α → τ
  | .ok _ after => after
  | .error _ after => after

/-- The answer of a step, if it came to one. -/
def answer? : EStateM.Result ε τ α → Option α
  | .ok a _ => some a
  | .error _ _ => none

/-- A result is known by its answer and by the state that it leaves. -/
theorem eq_ok_iff {result : EStateM.Result ε τ α} {a : α} :
    result = .ok a after ↔ answer? result = some a ∧ stateLeft result = after := by
  constructor
  · rintro rfl
    exact ⟨rfl, rfl⟩
  · rintro ⟨hanswer, rfl⟩
    cases result with
    | ok b after =>
      cases hanswer
      rfl
    | error reason after => cases hanswer

/-- A result with an answer is one in which the step has not ended early. -/
theorem exists_of_answer? {result : EStateM.Result ε τ α} {a : α} (h : answer? result = some a) :
    ∃ after, result = .ok a after := by
  cases result with
  | ok b after =>
    cases h
    exact ⟨after, rfl⟩
  | error reason after => cases h

/-- Why a step ended early, if it did, and in which state. -/
def refusal? : EStateM.Result ε τ α → Option (ε × τ)
  | .ok _ _ => none
  | .error reason after => some (reason, after)

/-- A result that shows a reason, and something of the state, is one in which the step ended
    early. -/
theorem exists_of_refusal? {β : Type} (view : τ → β) {result : EStateM.Result ε τ α} {reason : ε}
    {b : β} (h : (refusal? result).map (fun refusal => (refusal.1, view refusal.2)) =
      some (reason, b)) : ∃ after, result = .error reason after ∧ view after = b := by
  cases result with
  | ok a after => cases h
  | error reason' after =>
    cases h
    exact ⟨after, rfl, rfl⟩

end Thicket
