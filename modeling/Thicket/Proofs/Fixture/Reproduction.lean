/-
  Equal sources make equal fixtures.

  A completed fixture is told by the sketch that starts from its source (`Completed.free_sketched`),
  and a sketch reads neither name nor root nor disk.  A call that is refused before its ledger is
  open takes nothing from the source.  So of two sequences of calls that start from one source, the
  successful calls find the same sources, one after the other, and make the same fixtures
  (`successes_alike`), whatever else is on the disks and whatever the fixtures are called.

  1. **One call** — a success is told by its sketch (`Grown`), and a refusal leaves the source
     (`sourceAfter_of_refused`).
  2. **Two sequences** — by induction on the number of the success.  The first successful call of a
     sequence finds the source that the sequence starts from, and the calls after it are a sequence
     that starts from the source that it leaves (`Successive.first_success`).

  The point of the sketch is that it is the same for both calls.  Two runs on different disks
  cannot be compared step by step, for they open different files; but both realise one sketch.
-/
import Thicket.Proofs.Fixture.Completion
import Thicket.Proofs.Sketch.Independence

namespace Thicket

variable {σ : Type}

/-! ## Sequences of calls

  Between two calls nothing is handed on but the source.  The disk may have been changed by
  others. -/

/-- A call: the name that it asks for, and the world that it finds. -/
structure Call (σ : Type) where
  name : String
  world : World σ

/-- The source as a step leaves it. -/
def sourceAfter {α : Type} : EStateM.Result Stop (World σ) α → σ
  | .ok _ after => after.source
  | .error _ after => after.source

namespace Generator

variable [WordSource σ]

/-- What comes of a call. -/
def serve (generator : Generator) (call : Call σ) : EStateM.Result Stop (World σ) Summary :=
  generator.generate call.name call.world

/-- Calls that are made one after the other, the first from the given source: each finds the source
    as the call before left it.  The disk may be what that call left or any other. -/
def Successive (generator : Generator) (source : σ) : List (Call σ) → Prop
  | [] => True
  | call :: later =>
    call.world.source = source ∧ Successive generator (sourceAfter (generator.serve call)) later

/-- The call succeeded. -/
def succeeded (generator : Generator) (call : Call σ) : Bool :=
  match generator.serve call with
  | .ok _ _ => true
  | .error _ _ => false

/-- There is nothing where the ledger is to be, or a file. -/
def LedgerPlain (generator : Generator) (name : String) (world : World σ) : Prop :=
  ∀ base, generator.base? world = some base →
    world.disk.get? (ledgerPlace name base) = none ∨
      ∃ content, world.disk.get? (ledgerPlace name base) = some (.file content)

/-- The call succeeds, with its ledger in a plain file, or it is refused before a ledger is open. -/
def Proper (generator : Generator) (call : Call σ) : Prop :=
  generator.succeeded call = true ∧ generator.LedgerPlain call.name call.world ∨
    ∃ stop after, generator.openFixture call.name call.world = .error stop after

/-! ## One call

  A call that fails in its tree has used up words and made no success; such calls are not
  proper, and nothing is said of sequences with them. -/

/-- A call that is refused before its ledger is open leaves the source as it was. -/
theorem sourceAfter_of_refused {generator : Generator} {call : Call σ} {stop : Stop}
    {after : World σ} (h : generator.openFixture call.name call.world = .error stop after) :
    generator.succeeded call = false ∧
      sourceAfter (generator.serve call) = call.world.source := by
  have hserve : generator.serve call = .error stop after := run_bind_of_error h
  have hkeeps := generator.openFixture_keepsSource call.name call.world
  rw [h] at hkeeps
  rw [succeeded, hserve]
  exact ⟨rfl, hkeeps⟩

omit [WordSource σ] in
/-- A plain file is no link. -/
theorem LedgerPlain.unlinked {generator : Generator} {name : String} {world : World σ}
    (h : generator.LedgerPlain name world) : generator.LedgerUnlinked name world := by
  intro base hbase target
  rcases h base hbase with hnone | ⟨content, hfile⟩
  · rw [hnone]
    exact (Option.some_ne_none _).symm
  · rw [hfile]
    intro hlink
    cases hlink

/-- The sketch of a completed fixture, where nothing is blocked. -/
theorem Completed.free_sketched {generator : Generator} {name : String} {world after : World σ}
    {base : Place} {sketch : Sketch σ} {summary : Summary}
    (h : Completed generator name world base sketch summary after) :
    generator.sketchFill (fun _ => false) generator.settings.depth.toNat []
      (Sketch.start world.source) = .ok () sketch :=
  sketchFill_endsAs generator _ _ _ _ _ _ h.sketched

/-- The ledger of a completed fixture, if it is no device. -/
theorem Completed.ledger_eq {generator : Generator} {name : String} {world after : World σ}
    {base : Place} {sketch : Sketch σ} {summary : Summary}
    (h : Completed generator name world base sketch summary after)
    (hplain : generator.LedgerPlain name world) :
    after.disk.get? (ledgerPlace name base) =
      some (.file (Ledger.text sketch.history.lines).toUTF8) := by
  refine h.ledger.resolve_right ?_
  rintro ⟨hdevice, -⟩
  rcases hplain base h.base_eq with hnone | ⟨content, hfile⟩
  · rw [hdevice] at hnone
    cases hnone
  · rw [hdevice] at hfile
    cases hfile

/-- What a successful call leaves behind, told by the sketch that starts from its source. -/
structure Grown (generator : Generator) (call : Call σ) (base : Place) (sketch : Sketch σ)
    (summary : Summary) (after : World σ) : Prop where
  served : generator.serve call = .ok summary after
  base_eq : generator.base? call.world = some base
  sketched : generator.sketchFill (fun _ => false) generator.settings.depth.toNat []
    (Sketch.start call.world.source) = .ok () sketch
  source : after.source = sketch.source
  tree : ∀ place, after.disk.get? (place ++ call.name :: base) = sketch.history.entryAt place
  ledger : after.disk.get? (ledgerPlace call.name base) =
    some (.file (Ledger.text sketch.history.lines).toUTF8)
  summary_eq : ∃ target ledger, summary = {
    seed := generator.seed
    target
    ledger
    directories := sketch.history.directories + 1
    files := sketch.history.files
    payloadBytes := sketch.history.payloadBytes
    ledgerEntries := sketch.history.lines.length
    distinctTags := sketch.pool.size }

/-- A successful call with a plain ledger is told by a sketch. -/
theorem exists_grown {generator : Generator} {call : Call σ}
    (hplain : generator.LedgerPlain call.name call.world)
    (h : generator.succeeded call = true) :
    ∃ base sketch summary after, Grown generator call base sketch summary after := by
  rw [succeeded] at h
  split at h
  · rename_i summary after hserve
    obtain ⟨base, sketch, hdone⟩ := generate_eq_ok hplain.unlinked hserve
    refine ⟨base, sketch, summary, after, ?_⟩
    exact {
      served := hserve
      base_eq := hdone.base_eq
      sketched := hdone.free_sketched
      source := hdone.source
      tree := hdone.tree
      ledger := hdone.ledger_eq hplain
      summary_eq := ⟨_, _, hdone.summary_eq⟩ }
  · cases h

/-! ## Two sequences

  Successes are counted and refused calls are not, so the same fixture may be made by a call
  with another number. -/

/-- Two calls succeed and make the same fixture, each in its own place. -/
def Alike (generator other : Generator) (call call' : Call σ) : Prop :=
  ∃ summary after summary' after',
    generator.serve call = .ok summary after ∧ other.serve call' = .ok summary' after' ∧
    { summary with target := summary'.target, ledger := summary'.ledger } = summary' ∧
    after.source = after'.source ∧
    ∃ base base', generator.base? call.world = some base ∧ other.base? call'.world = some base' ∧
      (∀ place, after.disk.get? (place ++ call.name :: base) =
        after'.disk.get? (place ++ call'.name :: base')) ∧
      ∃ content, after.disk.get? (ledgerPlace call.name base) = some (.file content) ∧
        after'.disk.get? (ledgerPlace call'.name base') = some (.file content)

/-- Calls that find equal sources make equal fixtures. -/
theorem Grown.alike {generator : Generator} {root : String} {call call' : Call σ}
    {base base' : Place} {sketch sketch' : Sketch σ} {summary summary' : Summary}
    {after after' : World σ} (h : Grown generator call base sketch summary after)
    (h' : Grown (generator.withRoot root) call' base' sketch' summary' after')
    (hsource : call.world.source = call'.world.source) :
    after.source = after'.source ∧ Alike generator (generator.withRoot root) call call' := by
  have hsketch : sketch = sketch' := by
    have hsketched := h.sketched
    have hsketched' := h'.sketched
    rw [sketchFill_withRoot, ← hsource] at hsketched'
    have hsame := hsketched.symm.trans hsketched'
    cases hsame
    rfl
  subst hsketch
  have hafter : after.source = after'.source := by rw [h.source, h'.source]
  refine ⟨hafter, ?_⟩
  obtain ⟨target, ledger, hsummary⟩ := h.summary_eq
  obtain ⟨target', ledger', hsummary'⟩ := h'.summary_eq
  refine ⟨summary, after, summary', after', h.served, h'.served, ?_, hafter, base, base',
    h.base_eq, h'.base_eq, ?_, _, h.ledger, h'.ledger⟩
  · rw [hsummary, hsummary']
    rfl
  · intro place
    rw [h.tree, h'.tree]

/-- The first successful call of a sequence finds the source that the sequence starts from; the
    calls after it are a sequence that starts from the source that it leaves. -/
theorem Successive.first_success {generator : Generator} {source : σ} {calls : List (Call σ)}
    (h : generator.Successive source calls) (hproper : ∀ call ∈ calls, generator.Proper call)
    {call : Call σ} {successes : List (Call σ)}
    (hsuccesses : calls.filter generator.succeeded = call :: successes) :
    (generator.succeeded call = true ∧ generator.LedgerPlain call.name call.world) ∧
      call.world.source = source ∧
      ∃ later, generator.Successive (sourceAfter (generator.serve call)) later ∧
        (∀ call ∈ later, generator.Proper call) ∧
        later.filter generator.succeeded = successes := by
  induction calls generalizing source with
  | nil => cases hsuccesses
  | cons first later ih =>
    obtain ⟨hfirst, hlater⟩ := h
    obtain ⟨hproperFirst, hproperLater⟩ := List.forall_mem_cons.1 hproper
    rcases hproperFirst with ⟨hsucceeded, hplain⟩ | ⟨stop, after, hrefused⟩
    · rw [List.filter_cons_of_pos hsucceeded] at hsuccesses
      cases hsuccesses
      exact ⟨⟨hsucceeded, hplain⟩, hfirst, later, hlater, hproperLater, rfl⟩
    · -- a refused call leaves the source, so the rest starts from the same one
      obtain ⟨hfailed, hkept⟩ := sourceAfter_of_refused hrefused
      rw [List.filter_cons_of_neg (by simp [hfailed])] at hsuccesses
      rw [hkept, hfirst] at hlater
      exact ih hlater hproperLater hsuccesses

/-- Two sequences, each of proper calls, that start from one source. -/
structure Paired (generator other : Generator) (calls others : List (Call σ)) : Prop where
  source : ∃ source, generator.Successive source calls ∧ other.Successive source others
  proper : ∀ call ∈ calls, generator.Proper call
  proper' : ∀ call ∈ others, other.Proper call

/-- The first successful calls of two sequences are alike, and so are the sequences after them. -/
theorem Paired.first_alike {generator : Generator} {root : String} {calls others : List (Call σ)}
    (h : Paired generator (generator.withRoot root) calls others) {call call' : Call σ}
    {successes successes' : List (Call σ)}
    (hsuccesses : calls.filter generator.succeeded = call :: successes)
    (hsuccesses' : others.filter (generator.withRoot root).succeeded = call' :: successes') :
    Alike generator (generator.withRoot root) call call' ∧
      ∃ later later', Paired generator (generator.withRoot root) later later' ∧
        later.filter generator.succeeded = successes ∧
        later'.filter (generator.withRoot root).succeeded = successes' := by
  obtain ⟨source, hcalls, hothers⟩ := h.source
  obtain ⟨⟨hsucceeded, hplain⟩, hsource, later, hlater, hproper, hrest⟩ :=
    hcalls.first_success h.proper hsuccesses
  obtain ⟨⟨hsucceeded', hplain'⟩, hsource', later', hlater', hproper', hrest'⟩ :=
    hothers.first_success h.proper' hsuccesses'
  obtain ⟨base, sketch, summary, after, hgrown⟩ := exists_grown hplain hsucceeded
  obtain ⟨base', sketch', summary', after', hgrown'⟩ := exists_grown hplain' hsucceeded'
  obtain ⟨hafter, halike⟩ := hgrown.alike hgrown' (hsource.trans hsource'.symm)
  rw [hgrown.served, sourceAfter] at hlater
  rw [hgrown'.served, sourceAfter, ← hafter] at hlater'
  exact ⟨halike, later, later', ⟨⟨_, hlater, hlater'⟩, hproper, hproper'⟩, hrest, hrest'⟩

/-- **Equal sources make equal fixtures.**  Of two sequences of calls that start from one source, by
    generators that differ in their roots only, the calls that succeed make the same fixtures in
    the same order: the same entries with the same content below the fixture directories, the same
    bytes in the ledgers, the same summaries but for the paths, and the same sources afterwards.
    The names, the roots, the disks and the refused calls have no part in it. -/
theorem successes_alike {generator : Generator} {root : String} {calls others : List (Call σ)}
    (h : Paired generator (generator.withRoot root) calls others) {k : Nat} {call call' : Call σ}
    (hcall : (calls.filter generator.succeeded)[k]? = some call)
    (hcall' : (others.filter (generator.withRoot root).succeeded)[k]? = some call') :
    Alike generator (generator.withRoot root) call call' := by
  -- both sequences have a first success; it is the one asked for, or the rest begins behind it
  induction k generalizing calls others with
  | zero =>
    obtain ⟨first, rest, hsuccesses⟩ := List.exists_cons_of_ne_nil
      (List.ne_nil_of_mem (List.mem_of_getElem? hcall))
    obtain ⟨first', rest', hsuccesses'⟩ := List.exists_cons_of_ne_nil
      (List.ne_nil_of_mem (List.mem_of_getElem? hcall'))
    rw [hsuccesses] at hcall
    rw [hsuccesses'] at hcall'
    cases hcall
    cases hcall'
    exact (h.first_alike hsuccesses hsuccesses').1
  | succ k ih =>
    obtain ⟨first, rest, hsuccesses⟩ := List.exists_cons_of_ne_nil
      (List.ne_nil_of_mem (List.mem_of_getElem? hcall))
    obtain ⟨first', rest', hsuccesses'⟩ := List.exists_cons_of_ne_nil
      (List.ne_nil_of_mem (List.mem_of_getElem? hcall'))
    obtain ⟨-, later, later', hpaired, hrest, hrest'⟩ := h.first_alike hsuccesses hsuccesses'
    rw [hsuccesses, List.getElem?_cons_succ, ← hrest] at hcall
    rw [hsuccesses', List.getElem?_cons_succ, ← hrest'] at hcall'
    exact ih hpaired hcall hcall'

theorem little_ledgerPlain : little.LedgerPlain "f" World.little := by
  intro base hbase
  cases little_base.symm.trans hbase
  exact Or.inl little_ledger_free

/-- A refused call has no part in what the little generator makes, and neither have another root,
    another name and another disk. -/
theorem little_successes_alike :
    Alike little (little.withRoot "/r") ⟨"f", World.little⟩ ⟨"g", World.roomy⟩ := by
  have hplain' : (little.withRoot "/r").LedgerPlain "g" World.roomy := by
    have hbase : (little.withRoot "/r").base? World.roomy = some ["r"] := by decide +kernel
    intro base hbase'
    cases hbase.symm.trans hbase'
    exact Or.inl (by decide +kernel)
  have hslash : Path.isPlainName "a/b" = false := by decide +kernel
  have hrefused : little.Proper ⟨"a/b", World.little⟩ :=
    Or.inr ⟨.failed (.invalid (.nameNotPlain "a/b")), World.little,
      congrFun (if_neg (by simp [hslash])) World.little⟩
  have hserved : little.Proper ⟨"f", World.little⟩ := Or.inl ⟨by decide +kernel, little_ledgerPlain⟩
  have hserved' : (little.withRoot "/r").Proper ⟨"g", World.roomy⟩ :=
    Or.inl ⟨by decide +kernel, hplain'⟩
  have hpaired : Paired little (little.withRoot "/r")
      [⟨"a/b", World.little⟩, ⟨"f", World.little⟩] [⟨"g", World.roomy⟩] := {
    source := ⟨World.little.source, ⟨rfl, by decide +kernel, trivial⟩, rfl, trivial⟩
    proper := List.forall_mem_cons.2 ⟨hrefused, List.forall_mem_singleton.2 hserved⟩
    proper' := List.forall_mem_singleton.2 hserved' }
  have hcall : ([⟨"a/b", World.little⟩, ⟨"f", World.little⟩].filter little.succeeded)[0]? =
      some ⟨"f", World.little⟩ := by
    rw [List.filter_cons_of_neg (by decide +kernel), List.filter_cons_of_pos (by decide +kernel)]
    rfl
  have hcall' : ([⟨"g", World.roomy⟩].filter (little.withRoot "/r").succeeded)[0]? =
      some ⟨"g", World.roomy⟩ := by
    rw [List.filter_cons_of_pos (by decide +kernel)]
    rfl
  exact successes_alike hpaired hcall hcall'

end Generator

end Thicket
