/-
  What a sketch does not depend on.

  Two fixtures that are both completed grow alike if their sources are alike, wherever they grow.
  That is so for two reasons.

  1. **Blocked places** can only make a sketch halt: one that comes to its end does so wherever
     nothing is blocked, with the same answer and in the same state (`sketchFill_endsAs`).
  2. **The root** is the one setting that a sketch does not read (`sketchFill_withRoot`).

  So whatever two completed sketches began with in common, they have in common at the end.
-/
import Thicket.Proofs.Sketch.Basic
import Thicket.Proofs.Steps

namespace Thicket

/-! ## Blocked places

  The relation goes through sequences and loops, and only the making of an entry looks at what
  is blocked. -/

namespace Sketching

variable {σ α β : Type}

/-- Where the first program comes to its end, the second one comes to the same end. -/
def EndsAs (program other : Sketching σ α) : Prop :=
  ∀ sketch a after, program sketch = .ok a after → other sketch = .ok a after

theorem EndsAs.refl (program : Sketching σ α) : EndsAs program program :=
  fun _ _ _ h => h

theorem EndsAs.bind {program other : Sketching σ α} {next otherNext : α → Sketching σ β}
    (h : EndsAs program other) (h' : ∀ a, EndsAs (next a) (otherNext a)) :
    EndsAs (program >>= next) (other >>= otherNext) := by
  intro sketch b after hrun
  cases hprogram : program sketch with
  | ok a middle =>
    rw [run_bind_of_ok hprogram] at hrun
    rw [run_bind_of_ok (h sketch a middle hprogram)]
    exact h' a middle b after hrun
  | error halt middle =>
    rw [run_bind_of_error hprogram] at hrun
    cases hrun

theorem EndsAs.times {step other : Sketching σ Unit} (h : EndsAs step other) (count : Nat) :
    EndsAs (Making.times count step) (Making.times count other) := by
  induction count with
  | zero => exact EndsAs.refl _
  | succ count ih => exact h.bind fun _ => ih

/-- What is made in spite of blocked places is made where there are none. -/
theorem make_endsAs (blocked : Place → Bool) (task : Task) (place : Place) (event : Event) :
    EndsAs (σ := σ) (make blocked task place event)
      (make (fun _ => false) task place event) := by
  intro sketch a after h
  rw [make] at h ⊢
  split at h
  · -- a blocked place makes no end
    cases h
  · rw [if_neg Bool.false_ne_true]
    exact h

end Sketching

namespace Generator

open Sketching

variable {σ : Type} [WordSource σ]

theorem sketchFile_endsAs (generator : Generator) (blocked : Place → Bool) (directory : Place) :
    EndsAs (σ := σ) (generator.sketchFile blocked directory)
      (generator.sketchFile (fun _ => false) directory) := by
  refine (EndsAs.refl _).bind fun _ => ?_
  refine (EndsAs.refl _).bind fun _ => ?_
  refine (EndsAs.refl _).bind fun _ => ?_
  exact (make_endsAs _ _ _ _).bind fun _ => EndsAs.refl _

omit [WordSource σ] in
theorem sketchDirectory_endsAs (generator : Generator) (blocked : Place → Bool)
    (directory : Place) {fillChild other : Place → Sketching σ Unit}
    (hfill : ∀ child, EndsAs (fillChild child) (other child)) :
    EndsAs (generator.sketchDirectory blocked directory fillChild)
      (generator.sketchDirectory (fun _ => false) directory other) := by
  refine (EndsAs.refl _).bind fun _ => ?_
  exact (make_endsAs _ _ _ _).bind fun _ => hfill _

theorem sketchFillWith_endsAs (generator : Generator) (blocked : Place → Bool) (directory : Place)
    (depth : Nat) {slot other : Sketching σ Unit} (hslot : EndsAs slot other) :
    EndsAs (generator.sketchFillWith blocked directory depth slot)
      (generator.sketchFillWith (fun _ => false) directory depth other) := by
  refine (EndsAs.refl _).bind fun _ => ?_
  refine (hslot.times _).bind fun _ => ?_
  refine (EndsAs.refl _).bind fun _ => ?_
  exact ((sketchFile_endsAs generator blocked directory).times _).bind fun _ => EndsAs.refl _

/-- **Blocked places leave no trace in a tree that is completed.** -/
theorem sketchFill_endsAs (generator : Generator) (blocked : Place → Bool) (levels : Nat)
    (directory : Place) :
    EndsAs (σ := σ) (generator.sketchFill blocked levels directory)
      (generator.sketchFill (fun _ => false) levels directory) := by
  induction levels generalizing directory with
  | zero => exact sketchFillWith_endsAs generator blocked directory _ (EndsAs.refl _)
  | succ levels ih =>
    exact sketchFillWith_endsAs generator blocked directory _
      (sketchDirectory_endsAs generator blocked directory ih)

/-! ## The root

  A program that is defined by recursion needs an induction; in all others the two sides read the
  same settings and are one term. -/

/-- The generator with another root. -/
def withRoot (generator : Generator) (root : String) : Generator :=
  { generator with settings := { generator.settings with root } }

theorem sketchTags_withRoot (generator : Generator) (root file : String) (count : Nat)
    (taken : List String) :
    (generator.withRoot root).sketchTags (σ := σ) file count taken =
      generator.sketchTags file count taken := by
  induction count generalizing taken with
  | zero => rfl
  | succ count ih =>
    simp only [sketchTags, ih]
    rfl

theorem sketchFile_withRoot (generator : Generator) (root : String) (blocked : Place → Bool)
    (directory : Place) :
    (generator.withRoot root).sketchFile (σ := σ) blocked directory =
      generator.sketchFile blocked directory := by
  simp only [sketchFile, sketchTagging, sketchTags_withRoot]
  rfl

/-- **A sketch does not read the root.** -/
theorem sketchFill_withRoot (generator : Generator) (root : String) (blocked : Place → Bool)
    (levels : Nat) (directory : Place) :
    (generator.withRoot root).sketchFill (σ := σ) blocked levels directory =
      generator.sketchFill blocked levels directory := by
  induction levels generalizing directory with
  | zero =>
    simp only [sketchFill, sketchFillWith, sketchFile_withRoot]
    rfl
  | succ levels ih =>
    simp only [sketchFill, sketchFillWith, sketchFile_withRoot, ih]
    rfl

end Generator

end Thicket
