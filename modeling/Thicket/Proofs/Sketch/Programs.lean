/-
  Every program keeps to its sketch.

  There is one lemma for each program, in the order in which they call each other, up to the growing
  of a whole tree (`fill_simulates`), by induction on the levels that may still be added.

  The programs and their sketches have the same shape, so a program is taken apart step by step,
  and each step is one of those of `Thicket.Proofs.Sketch.Simulation`.  Two places need more.  A
  file is made and then counted, which is one step of its sketch; and only once a child directory
  is there can the filling of it keep to its sketch.
-/
import Thicket.Proofs.Sketch.Simulation

namespace Thicket

namespace Generator

variable {σ : Type} [WordSource σ] {ground : Ground} {place : Place}

/-! ## Tagging

  No step of it makes an entry, so the place of the file's directory is of no account here. -/

theorem pickTag_simulates (generator : Generator) :
    Simulates (σ := σ) ground place generator.pickTag generator.sketchPick := by
  refine (draw_simulates _).bind ?_
  intro sample _
  refine Simulates.ite ?_ (nextIdentifier_simulates _)
  refine Simulates.get ?_
  intro plot sketch hpool
  rw [hpool]
  refine (draw_simulates _).bind ?_
  intro choice _
  cases choice with
  | none => exact nextIdentifier_simulates _
  | some tag => exact Simulates.pure tag

theorem pickOtherTag_simulates (generator : Generator) (taken : List String) :
    Simulates (σ := σ) ground place (generator.pickOtherTag taken)
      (generator.sketchPickOther taken) :=
  Simulates.retry ((pickTag_simulates generator).bind fun _ _ => Simulates.pure _) _

/-- By the tags that are still to be drawn; whether to go on is decided by the pool, which is
    the same in both. -/
theorem tagTimes_simulates (generator : Generator) (file : String) (count : Nat)
    (taken : List String) :
    Simulates (σ := σ) ground place (generator.tagTimes file count taken)
      (generator.sketchTags file count taken) := by
  induction count generalizing taken with
  | zero => exact Simulates.pure ()
  | succ count ih =>
    refine (pickOtherTag_simulates generator taken).bind ?_
    intro tag _
    refine (useTag_simulates tag).bind ?_
    intro _ _
    refine (record_simulates file tag).bind ?_
    intro _ _
    refine Simulates.get ?_
    intro plot sketch hpool
    rw [hpool]
    exact Simulates.ite (Simulates.pure ()) (ih _)

theorem tagFile_simulates (generator : Generator) (file : String) :
    Simulates (σ := σ) ground place (generator.tagFile file) (generator.sketchTagging file) :=
  (draw_simulates _).bind fun _ _ => tagTimes_simulates generator file _ []

/-! ## Files and directories -/

theorem plantFile_simulates (generator : Generator) (directory : Place) :
    Simulates (σ := σ) ground directory
      (generator.plantFile (Path.ofPlace (directory ++ ground.top)))
      (generator.sketchFile ground.blocked directory) := by
  refine Simulates.of_isStep ?_
  intro hsteps
  refine (nextIdentifier_simulates _).bind ?_
  intro identifier hidentifier
  obtain ⟨counter, rfl⟩ := exists_counter_of_nextIdentifier hidentifier
  have hname : Path.IsStep (generator.codec.encode counter ++ fileSuffix) :=
    Codec.isStep_encode_append _ _ (by decide) (by decide)
  refine (draw_simulates _).bind ?_
  intro length _
  refine (draw_simulates _).bind ?_
  intro payload hpayload
  have hsize : payload.size = length.toNat := by
    obtain ⟨before, after, hdrawn⟩ := hpayload
    have hgives := Draw.gives_bytes length.toNat before.source
    rw [Sketching.draw] at hdrawn
    cases hresult : Draw.bytes length.toNat before.source with
    | error reason source =>
      rw [hresult] at hdrawn
      cases hdrawn
    | ok drawn source =>
      rw [hresult] at hdrawn hgives
      cases hdrawn
      exact hgives
  -- making the file and counting it are one step of the sketch
  rw [Path.join_ofPlace hsteps, ← bind_assoc, ← hsize]
  refine Simulates.bind ?_ fun _ _ => tagFile_simulates generator _
  exact make_simulates (.file directory (generator.codec.encode counter) payload) hname rfl
    fun disk hdirectory => Disk.makeFile_ofPlace hname hdirectory payload

omit [WordSource σ] in
/-- A subdirectory is made and filled if filling keeps to its sketch. -/
theorem plantDirectory_simulates (generator : Generator) (directory : Place)
    {fillChild : String → Making σ Unit} {sketchChild : Place → Sketching σ Unit}
    (hfill : ∀ child, Simulates ground child (fillChild (Path.ofPlace (child ++ ground.top)))
      (sketchChild child)) :
    Simulates ground directory
      (generator.plantDirectory (Path.ofPlace (directory ++ ground.top)) fillChild)
      (generator.sketchDirectory ground.blocked directory sketchChild) := by
  refine Simulates.of_isStep ?_
  intro hsteps
  refine (nextIdentifier_simulates _).bind ?_
  intro identifier hidentifier
  obtain ⟨counter, rfl⟩ := exists_counter_of_nextIdentifier hidentifier
  have hname : Path.IsStep (generator.codec.encode counter) := Codec.isStep_encode _ _
  rw [Path.join_ofPlace hsteps, ← bind_assoc]
  intro plot sketch hreal hdirectory
  refine Matches.bind ?_ ?_
  · exact make_simulates (.directory directory (generator.codec.encode counter)) hname rfl
      (fun disk hdirectory => Disk.makeDirectory_ofPlace hname hdirectory) plot sketch hreal
      hdirectory
  · -- once the child is there the filling of it may begin
    intro _ plot' sketch' hmade hreal' _
    exact hfill _ plot' sketch' hreal' (Sketching.entryAt_of_make rfl hmade)

/-! ## Trees

  The report at the end of a directory has the path that belongs to the directory's place. -/

theorem fillWith_simulates (generator : Generator) (directory : Place) (depth : Nat)
    {slot : Making σ Unit} {sketchSlot : Sketching σ Unit}
    (hslot : Simulates ground directory slot sketchSlot) :
    Simulates ground directory
      (generator.fillWith (Path.ofPlace (directory ++ ground.top)) depth slot)
      (generator.sketchFillWith ground.blocked directory depth sketchSlot) := by
  refine (draw_simulates _).bind ?_
  intro slots _
  refine (hslot.times _).bind ?_
  intro _ _
  refine (draw_simulates _).bind ?_
  intro files _
  refine ((plantFile_simulates generator directory).times _).bind ?_
  intro _ _
  exact filled_simulates _ _ _ _

/-- **A tree grows as its sketch does.** -/
theorem fill_simulates (generator : Generator) (levels : Nat) (directory : Place) :
    Simulates (σ := σ) ground directory
      (generator.fill levels (Path.ofPlace (directory ++ ground.top)))
      (generator.sketchFill ground.blocked levels directory) := by
  -- by the levels that may be added; with none left the slots make nothing
  induction levels generalizing directory with
  | zero =>
    refine fillWith_simulates generator directory _ ?_
    exact (nextIdentifier_simulates _).bind fun _ _ => discarded_simulates _
  | succ levels ih =>
    exact fillWith_simulates generator directory _ (plantDirectory_simulates generator directory ih)

end Generator

end Thicket
