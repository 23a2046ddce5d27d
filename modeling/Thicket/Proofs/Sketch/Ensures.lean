/-
  Contracts of sketches.

  A contract speaks of the progress before and after, never of the source: what a draw gives is
  known only by its kind.  It also says at which halts the program may end, and with what
  progress.

  1. **Programs in general** — contracts go through sequences, repetitions and redrawing, so a
     property of the whole growth is proved step by step.  A loop counts its rounds
     (`Ensures.times`), and redrawing has to leave everything as it was (`Ensures.retry`).
  2. **Steps** — a draw gives something of its kind, noting adds an event, and an entry is made
     where the contract before it says that the place is free (`ensures_make`).

  They are the contracts of `Thicket.Proofs.Contracts`, with the source left out of the state.
-/
import Thicket.Proofs.Contracts
import Thicket.Proofs.Random.Gives
import Thicket.Proofs.Sketch.Basic

namespace Thicket

namespace Sketching

variable {σ α β : Type} {halts : Halt → Progress → Prop}

/-- Started where `pre` holds, the program ends where `post` does, or at one of the halts. -/
def Ensures (halts : Halt → Progress → Prop) (pre : Progress → Prop) (program : Sketching σ α)
    (post : α → Progress → Prop) : Prop :=
  Meets (fun sketch => pre sketch.toProgress) program (fun a after => post a after.toProgress)
    fun halt after => halts halt after.toProgress

/-! ## Programs in general -/

theorem ensures_pure {pre : Progress → Prop} {post : α → Progress → Prop} {a : α}
    (h : ∀ progress, pre progress → post a progress) :
    Ensures (σ := σ) halts pre (pure a) post :=
  meets_pure fun sketch => h sketch.toProgress

theorem Ensures.bind {pre : Progress → Prop} {middle : α → Progress → Prop}
    {post : β → Progress → Prop} {program : Sketching σ α} {next : α → Sketching σ β}
    (h : Ensures halts pre program middle) (h' : ∀ a, Ensures halts (middle a) (next a) post) :
    Ensures halts pre (program >>= next) post :=
  Meets.bind h h'

theorem Ensures.of_pre {pre pre' : Progress → Prop} {post : α → Progress → Prop}
    {program : Sketching σ α} (h : Ensures halts pre program post)
    (hpre : ∀ progress, pre' progress → pre progress) : Ensures halts pre' program post :=
  Meets.of_pre h fun sketch => hpre sketch.toProgress

theorem Ensures.imp {pre : Progress → Prop} {post post' : α → Progress → Prop}
    {program : Sketching σ α} (h : Ensures halts pre program post)
    (hpost : ∀ a progress, post a progress → post' a progress) :
    Ensures halts pre program post' :=
  Meets.imp h fun a sketch => hpost a sketch.toProgress

/-- What does not depend on the progress can be taken out of the precondition. -/
theorem Ensures.of_fact {fact : Prop} {pre : Progress → Prop} {post : α → Progress → Prop}
    {program : Sketching σ α} (h : fact → Ensures halts pre program post) :
    Ensures halts (fun progress => fact ∧ pre progress) program post :=
  fun sketch hpre => h hpre.1 sketch hpre.2

/-- A loop that counts: what holds after so many rounds holds one round later after one more. -/
theorem Ensures.times {invariant : Nat → Progress → Prop} {step : Sketching σ Unit}
    (h : ∀ done, Ensures halts (invariant done) step fun _ => invariant (done + 1))
    (count start : Nat) :
    Ensures halts (invariant start) (Making.times count step)
      fun _ => invariant (start + count) := by
  -- by the rounds that are left, for any number of rounds done
  induction count generalizing start with
  | zero => exact ensures_pure fun _ hpre => hpre
  | succ count ih =>
    refine (h start).bind ?_
    intro _
    have hrest := ih (start + 1)
    rw [show start + 1 + count = start + (count + 1) by omega] at hrest
    exact hrest

/-- Redrawing: an attempt that gives nothing leaves everything ready for the next one. -/
theorem Ensures.retry {pre : Progress → Prop} {post : α → Progress → Prop}
    {attempt : Sketching σ (Option α)} (hstalled : ∀ progress, halts (.mishap .stalled) progress)
    (h : Ensures halts pre attempt fun answer progress =>
      match answer with
      | some a => post a progress
      | none => pre progress) (patience : Nat) :
    Ensures halts pre (Draw.retry (.mishap .stalled) attempt patience) post :=
  Meets.retry (fun sketch _ => hstalled sketch.toProgress) h patience

theorem ensures_get {pre : Progress → Prop} {post : α → Progress → Prop}
    {next : Sketch σ → Sketching σ α}
    (h : ∀ seen : Sketch σ,
      Ensures halts (fun progress => pre progress ∧ progress = seen.toProgress) (next seen) post) :
    Ensures halts pre (get >>= next) post :=
  fun sketch hpre => h sketch sketch ⟨hpre, rfl⟩

theorem ensures_ite {pre : Progress → Prop} {post : α → Progress → Prop} {condition : Prop}
    [Decidable condition] {yes no : Sketching σ α} (hyes : Ensures halts pre yes post)
    (hno : Ensures halts pre no post) :
    Ensures halts pre (if condition then yes else no) post :=
  meets_ite hyes hno

/-! ## Steps -/

/-- A draw changes nothing but the source. -/
theorem ensures_draw {draw : Draw σ α} {kind : α → Prop}
    (hstalled : ∀ progress, halts (.mishap .stalled) progress) (h : Draw.Gives draw kind)
    (pre : Progress → Prop) :
    Ensures halts pre (Sketching.draw draw) fun a progress => kind a ∧ pre progress := by
  intro sketch hpre
  have hdraw := h sketch.source
  rw [Sketching.draw]
  cases hresult : draw sketch.source with
  | ok a source =>
    rw [hresult] at hdraw
    exact ⟨hdraw, hpre⟩
  | error reason source =>
    rw [hresult] at hdraw
    rw [show reason = .stalled from hdraw]
    exact hstalled sketch.toProgress

/-- An event more in the history has to be what the contract wants. -/
theorem ensures_note {pre : Progress → Prop} {post : Unit → Progress → Prop} (event : Event)
    (h : ∀ progress, pre progress →
      post () { progress with history := event :: progress.history }) :
    Ensures (σ := σ) halts pre (note event) post :=
  fun sketch hpre => h sketch.toProgress hpre

/-- An entry is made if its place is free; it can be refused for its path. -/
theorem ensures_make {pre : Progress → Prop} {post : Unit → Progress → Prop}
    {blocked : Place → Bool} {task : Task} {place : Place} {event : Event}
    (hfree : ∀ progress, pre progress → progress.history.entryAt place = none)
    (hrefused : ∀ progress, pre progress → blocked place = true →
      halts (.refused task place .nameTooLong) progress)
    (h : ∀ progress, pre progress →
      post () { progress with history := event :: progress.history }) :
    Ensures (σ := σ) halts pre (make blocked task place event) post := by
  intro sketch hpre
  rw [make]
  by_cases hblocked : blocked place = true
  · rw [if_pos hblocked]
    exact hrefused _ hpre hblocked
  · rw [if_neg hblocked, if_pos (hfree _ hpre)]
    exact h _ hpre

end Sketching

end Thicket
