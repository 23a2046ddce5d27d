/-
  What a well-formed argument list asks for.

  1. **Draft** — a draft that has taken clauses holds just what they give (`Draft.Holds`).  That
     is so because taking one more clause sets one field that was not set (`Holds.add`), and
     because a clause that says something new and readable is taken (`Holds.exists_add`); so what
     was taken is held (`holds_of_addAll`), and acceptable clauses are taken (`exists_addAll`).
  2. **Invocation** — completing the draft gives every field its value or its default
     (`Holds.means_of_complete`).

  Neither `Holds` nor `Means` looks at the order of the clauses or at how they are spelled.  With
  the grammar of the lists this says when arguments are accepted, and what they ask for
  (`Spells.ofArguments_eq_ok_iff`).

  All nine switches with values are treated alike.  Their values have different types, so the
  value of a switch has the type `Valued.Carrier` and a draft is a function of the switch
  (`Draft.get`, `Draft.put`).  Only the lemmas of the section on fields go through the switches
  one by one.
-/
import Thicket.Proofs.Command.Spelling
import Mathlib.Data.List.Induction
import Mathlib.Data.List.Nodup

namespace Thicket.Command

/-! ## Values

  A text can be no value of its switch: a count that is no number, a density that cannot be
  read, an empty path.  A name may be any text; whether it can be one is asked when the fixture
  is made. -/

/-- What the values of a switch are. -/
def Valued.Carrier : Valued → Type
  | name => String
  | seed => UInt64
  | depth => UInt64
  | branchFactor => UInt64
  | maxFiles => UInt64
  | maxFileSize => UInt64
  | maxTags => UInt64
  | tagDensity => Binary64
  | root => String

/-- Reads a path: any text but the empty one. -/
def path? (text : String) : Option String := if text = "" then none else some text

/-- The value that a text is for a switch, if it is one. -/
def Valued.read? : (which : Valued) → String → Option which.Carrier
  | name => some
  | seed => Reading.count?
  | depth => Reading.count?
  | branchFactor => Reading.count?
  | maxFiles => Reading.count?
  | maxFileSize => Reading.count?
  | maxTags => Reading.count?
  | tagDensity => Reading.real?
  | root => path?

/-- The switch that a clause is about. -/
def Clause.switch : Clause → Switch
  | value which _ => .valued which
  | flag which => .flag which

/-- The clauses give a switch this value, or none where there is none.  A text that is no value
    for its switch gives nothing, so then no value is given and it is not true either that none
    is. -/
def Gives (clauses : List Clause) (which : Valued) : Option which.Carrier → Prop
  | some value => ∃ text, .value which text ∈ clauses ∧ which.read? text = some value
  | none => ∀ text, .value which text ∉ clauses

/-- Clauses that can be carried out: each is about something else, one gives the name, and every
    text is a value for its switch. -/
structure Acceptable (clauses : List Clause) : Prop where
  once : (clauses.map Clause.switch).Nodup
  named : ∃ text, .value .name text ∈ clauses
  readable : ∀ which text, .value which text ∈ clauses → which.read? text ≠ none

/-- This is the value that the clauses give a switch, or the default where they give it none. -/
def GivesOr (clauses : List Clause) (which : Valued) (default value : which.Carrier) : Prop :=
  ∃ given, Gives clauses which given ∧ value = given.getD default

/-- The clauses ask for this invocation: every field has the value that is given for it, or its
    default where none is given. -/
structure Means (clauses : List Clause) (invocation : Invocation) : Prop where
  name : Gives clauses .name (some invocation.name)
  seed : Gives clauses .seed invocation.settings.seed
  depth : GivesOr clauses .depth ({} : Settings).depth invocation.settings.depth
  branchFactor : GivesOr clauses .branchFactor ({} : Settings).branchFactor
    invocation.settings.branchFactor
  maxFiles : GivesOr clauses .maxFiles ({} : Settings).maxFiles invocation.settings.maxFiles
  maxFileSize : GivesOr clauses .maxFileSize ({} : Settings).maxFileSize
    invocation.settings.maxFileSize
  maxTags : GivesOr clauses .maxTags ({} : Settings).maxTags invocation.settings.maxTags
  tagDensity : GivesOr clauses .tagDensity ({} : Settings).tagDensity
    invocation.settings.tagDensity
  root : GivesOr clauses .root ({} : Settings).root invocation.settings.root
  untaggedFilesDisallowed : invocation.settings.untaggedFilesDisallowed = true ↔
    .flag .untaggedFilesDisallowed ∈ clauses
  quiet : invocation.quiet = true ↔ .flag .quiet ∈ clauses

/-! ## The draft, field by field

  With these lemmas a draft is known by what its switches are set to and which of its flags are
  up. -/

namespace Draft

/-- What a switch is set to. -/
def get (draft : Draft) : (which : Valued) → Option which.Carrier
  | .name => draft.name
  | .seed => draft.seed
  | .depth => draft.depth
  | .branchFactor => draft.branchFactor
  | .maxFiles => draft.maxFiles
  | .maxFileSize => draft.maxFileSize
  | .maxTags => draft.maxTags
  | .tagDensity => draft.tagDensity
  | .root => draft.root

/-- The draft with a switch set. -/
def put (draft : Draft) : (which : Valued) → which.Carrier → Draft
  | .name, value => { draft with name := some value }
  | .seed, value => { draft with seed := some value }
  | .depth, value => { draft with depth := some value }
  | .branchFactor, value => { draft with branchFactor := some value }
  | .maxFiles, value => { draft with maxFiles := some value }
  | .maxFileSize, value => { draft with maxFileSize := some value }
  | .maxTags, value => { draft with maxTags := some value }
  | .tagDensity, value => { draft with tagDensity := some value }
  | .root, value => { draft with root := some value }

/-- A flag is on. -/
def isRaised (draft : Draft) : Flag → Bool
  | .untaggedFilesDisallowed => draft.untaggedFilesDisallowed
  | .quiet => draft.quiet

/-- The draft with a flag on. -/
def hoist (draft : Draft) : Flag → Draft
  | .untaggedFilesDisallowed => { draft with untaggedFilesDisallowed := true }
  | .quiet => { draft with quiet := true }

variable {draft after : Draft}

@[simp]
theorem get_put_self (draft : Draft) (which : Valued) (value : which.Carrier) :
    (draft.put which value).get which = some value := by
  cases which <;> rfl

theorem get_put_of_ne (draft : Draft) {which other : Valued} (h : other ≠ which)
    (value : which.Carrier) : (draft.put which value).get other = draft.get other := by
  cases which <;> cases other <;> first | rfl | exact absurd rfl h

@[simp]
theorem isRaised_put (draft : Draft) (which : Valued) (value : which.Carrier) (flag : Flag) :
    (draft.put which value).isRaised flag = draft.isRaised flag := by
  cases which <;> cases flag <;> rfl

@[simp]
theorem get_hoist (draft : Draft) (flag : Flag) (which : Valued) :
    (draft.hoist flag).get which = draft.get which := by
  cases flag <;> cases which <;> rfl

theorem isRaised_hoist (draft : Draft) (flag other : Flag) :
    (draft.hoist flag).isRaised other = (decide (other = flag) || draft.isRaised other) := by
  cases flag <;> cases other <;> rfl

/-- What can be set once is set if it is not, to what its reader makes of the text. -/
theorem setOnce_map_eq_ok_iff {α : Type} {current : Option α} {read : String → Except Refusal α}
    {read? : String → Option α} {text : String} {update : Option α → Draft}
    (hread : ∀ value, read text = .ok value ↔ read? text = some value) :
    (setOnce current read text).map update = .ok after ↔
      current = none ∧ ∃ value, read? text = some value ∧ after = update (some value) := by
  simp only [← hread]
  cases current with
  | some value => simp [setOnce, Except.map]
  | none =>
    cases hvalue : read text with
    | error refusal => simp [setOnce, Except.map, hvalue]
    | ok value => simp [setOnce, Except.map, hvalue, eq_comm]

theorem readCount_eq_ok_iff (text : String) (value : UInt64) :
    readCount text = .ok value ↔ Reading.count? text = some value := by
  rw [readCount]
  cases Reading.count? text <;> simp

theorem readReal_eq_ok_iff (text : String) (value : Binary64) :
    readReal text = .ok value ↔ Reading.real? text = some value := by
  rw [readReal]
  cases Reading.real? text <;> simp

theorem readPath_eq_ok_iff (text : String) (value : String) :
    readPath text = .ok value ↔ path? text = some value := by
  rw [readPath, path?]
  by_cases h : text = ""
  · simp [if_pos h]
  · simp [if_neg h]

/-- A switch is set where it was not, to what the text is for it. -/
theorem set_eq_ok_iff {which : Valued} {text : String} :
    draft.set which text = .ok after ↔
      draft.get which = none ∧ ∃ value, which.read? text = some value ∧
        after = draft.put which value := by
  cases which with
  | name =>
    have hread : ∀ value, (.ok text : Except Refusal String) = .ok value ↔
        some text = some value := by simp
    exact setOnce_map_eq_ok_iff hread
  | seed => exact setOnce_map_eq_ok_iff (readCount_eq_ok_iff text)
  | depth => exact setOnce_map_eq_ok_iff (readCount_eq_ok_iff text)
  | branchFactor => exact setOnce_map_eq_ok_iff (readCount_eq_ok_iff text)
  | maxFiles => exact setOnce_map_eq_ok_iff (readCount_eq_ok_iff text)
  | maxFileSize => exact setOnce_map_eq_ok_iff (readCount_eq_ok_iff text)
  | maxTags => exact setOnce_map_eq_ok_iff (readCount_eq_ok_iff text)
  | tagDensity => exact setOnce_map_eq_ok_iff (readReal_eq_ok_iff text)
  | root => exact setOnce_map_eq_ok_iff (readPath_eq_ok_iff text)

/-- A flag is raised where it is down. -/
theorem raise_eq_ok_iff {flag : Flag} :
    draft.raise flag = .ok after ↔ draft.isRaised flag = false ∧ after = draft.hoist flag := by
  have hraise : draft.raise flag =
      if draft.isRaised flag then .error .argumentConflict else .ok (draft.hoist flag) := by
    cases flag <;> rfl
  rw [hraise]
  cases draft.isRaised flag <;> simp [eq_comm]

/-! ## Holding clauses

  That no two clauses are about the same switch is part of what a draft holds, since it refuses
  the second one. -/

/-- The draft is set to what the clauses give, and each of them gives something else.  This is
    the invariant of reading: it holds of the first draft and no clauses, and each clause that
    is taken keeps it (`Holds.add`). -/
structure Holds (draft : Draft) (clauses : List Clause) : Prop where
  once : (clauses.map Clause.switch).Nodup
  gives : ∀ which, Gives clauses which (draft.get which)
  raised : ∀ flag, draft.isRaised flag = true ↔ .flag flag ∈ clauses

end Draft

section Gives

variable {clauses : List Clause} {which : Valued} {text : String}

/-- Of switches that are given once the clauses give one thing only. -/
theorem Gives.eq_of_mem {given : Option which.Carrier} (h : Gives clauses which given)
    (honce : (clauses.map Clause.switch).Nodup) (hmem : .value which text ∈ clauses) :
    ∃ value, given = some value ∧ which.read? text = some value := by
  cases given with
  | none => exact absurd hmem (h text)
  | some value =>
    obtain ⟨text', hmem', hread⟩ := h
    have heq := List.inj_on_of_nodup_map honce hmem' hmem rfl
    cases heq
    exact ⟨value, rfl, hread⟩

/-- If no switch is given twice, the clauses give it one value or none. -/
theorem Gives.eq {given given' : Option which.Carrier} (h : Gives clauses which given)
    (h' : Gives clauses which given') (honce : (clauses.map Clause.switch).Nodup) :
    given = given' := by
  cases given with
  | none =>
    cases given' with
    | none => rfl
    | some value =>
      obtain ⟨text, hmem, -⟩ := h'
      exact absurd hmem (h text)
  | some value =>
    obtain ⟨text, hmem, hread⟩ := h
    obtain ⟨value', rfl, hread'⟩ := h'.eq_of_mem honce hmem
    rw [← hread, ← hread']

theorem GivesOr.eq {default value value' : which.Carrier} (h : GivesOr clauses which default value)
    (h' : GivesOr clauses which default value') (honce : (clauses.map Clause.switch).Nodup) :
    value = value' := by
  obtain ⟨given, hgives, rfl⟩ := h
  obtain ⟨given', hgives', rfl⟩ := h'
  rw [hgives.eq hgives' honce]

theorem Gives.perm {clauses' : List Clause} {given : Option which.Carrier}
    (h : Gives clauses which given) (hperm : clauses.Perm clauses') :
    Gives clauses' which given := by
  cases given with
  | none => exact fun text hmem => h text (hperm.mem_iff.2 hmem)
  | some value =>
    obtain ⟨text, hmem, hread⟩ := h
    exact ⟨text, hperm.mem_iff.1 hmem, hread⟩

/-- A clause about something else adds nothing to a switch. -/
theorem Gives.append {clause : Clause} {given : Option which.Carrier}
    (h : Gives clauses which given) (hne : clause.switch ≠ .valued which) :
    Gives (clauses ++ [clause]) which given := by
  cases given with
  | none =>
    intro text hmem
    rcases List.mem_append.1 hmem with hmem | hmem
    · exact h text hmem
    · rw [← List.mem_singleton.1 hmem] at hne
      exact hne rfl
  | some value =>
    obtain ⟨text, hmem, hread⟩ := h
    exact ⟨text, List.mem_append_left _ hmem, hread⟩

end Gives

namespace Draft

variable {draft after : Draft} {clauses : List Clause} {clause : Clause}

theorem holds_nil : Holds {} [] where
  once := List.nodup_nil
  gives which := by
    cases which <;> exact fun _ => List.not_mem_nil
  raised flag := by
    cases flag <;> simp [isRaised]

/-- What is set nowhere is new. -/
theorem Holds.value_notMem (h : draft.Holds clauses) {which : Valued}
    (hnone : draft.get which = none) : Switch.valued which ∉ clauses.map Clause.switch := by
  have hgives := h.gives which
  rw [hnone] at hgives
  intro hmem
  obtain ⟨clause, hmem, hswitch⟩ := List.mem_map.1 hmem
  cases clause with
  | value other text =>
    cases hswitch
    exact hgives text hmem
  | flag other => cases hswitch

/-- A flag that is down was given by none of them. -/
theorem Holds.flag_notMem (h : draft.Holds clauses) {flag : Flag}
    (hdown : draft.isRaised flag = false) : Switch.flag flag ∉ clauses.map Clause.switch := by
  intro hmem
  obtain ⟨clause, hmem, hswitch⟩ := List.mem_map.1 hmem
  cases clause with
  | value which text => cases hswitch
  | flag other =>
    cases hswitch
    rw [(h.raised flag).2 hmem] at hdown
    cases hdown

/-- A clause that is taken sets what it is about and nothing else.  It was not set before, so
    none of the clauses so far is about it. -/
theorem Holds.add (h : draft.Holds clauses) (hadd : draft.add clause = .ok after) :
    after.Holds (clauses ++ [clause]) := by
  cases clause with
  | value which text =>
    obtain ⟨hnone, value, hread, rfl⟩ := set_eq_ok_iff.1 hadd
    constructor
    · rw [List.map_append, List.nodup_append_comm]
      exact List.nodup_cons.2 ⟨h.value_notMem hnone, h.once⟩
    · intro other
      -- the switch that is set now has the value of this clause, any other one what it had
      by_cases heq : other = which
      · subst heq
        rw [get_put_self]
        exact ⟨text, List.mem_append_right _ (List.mem_singleton_self _), hread⟩
      · rw [get_put_of_ne _ heq]
        refine (h.gives other).append ?_
        rintro ⟨⟩
        exact heq rfl
    · intro flag
      rw [isRaised_put, h.raised, List.mem_append]
      simp
  | flag flag =>
    obtain ⟨hdown, rfl⟩ := raise_eq_ok_iff.1 hadd
    constructor
    · rw [List.map_append, List.nodup_append_comm]
      exact List.nodup_cons.2 ⟨h.flag_notMem hdown, h.once⟩
    · intro which
      rw [get_hoist]
      exact (h.gives which).append nofun
    · intro other
      rw [isRaised_hoist, Bool.or_eq_true, decide_eq_true_iff, h.raised, List.mem_append,
        List.mem_singleton, Clause.flag.injEq, or_comm]

/-- A clause that is new and can be read is taken. -/
theorem Holds.exists_add (h : draft.Holds clauses)
    (hnew : clause.switch ∉ clauses.map Clause.switch)
    (hread : ∀ which text, clause = .value which text → which.read? text ≠ none) :
    ∃ after, draft.add clause = .ok after := by
  cases clause with
  | value which text =>
    obtain ⟨value, hvalue⟩ := Option.ne_none_iff_exists'.1 (hread which text rfl)
    have hnone : draft.get which = none := by
      have hgives := h.gives which
      -- had the switch been set, some clause would have given it
      cases hget : draft.get which with
      | none => rfl
      | some given =>
        rw [hget] at hgives
        obtain ⟨text', hmem, -⟩ := hgives
        exact absurd (List.mem_map_of_mem hmem) hnew
    exact ⟨_, set_eq_ok_iff.2 ⟨hnone, value, hvalue, rfl⟩⟩
  | flag flag =>
    have hdown : draft.isRaised flag = false := by
      rw [← Bool.not_eq_true, h.raised]
      exact fun hmem => hnew (List.mem_map_of_mem hmem)
    exact ⟨_, raise_eq_ok_iff.2 ⟨hdown, rfl⟩⟩

theorem holds_of_addAll (h : addAll {} clauses = .ok draft) : draft.Holds clauses := by
  -- from the last clause: it is taken by a draft that holds the others
  induction clauses using List.reverseRecOn generalizing draft with
  | nil =>
    cases h
    exact holds_nil
  | append_singleton clauses clause ih =>
    rw [addAll_append] at h
    obtain ⟨middle, hmiddle, hadd⟩ := bind_eq_ok_iff.1 h
    rw [addAll_singleton] at hadd
    exact (ih hmiddle).add hadd

/-- Clauses are taken if each gives something else and can be read. -/
theorem exists_addAll (honce : (clauses.map Clause.switch).Nodup)
    (hread : ∀ which text, .value which text ∈ clauses → which.read? text ≠ none) :
    ∃ draft, addAll {} clauses = .ok draft := by
  induction clauses using List.reverseRecOn with
  | nil => exact ⟨{}, rfl⟩
  | append_singleton clauses clause ih =>
    rw [List.map_append, List.nodup_append_comm] at honce
    obtain ⟨hnew, honce⟩ := List.nodup_cons.1 honce
    obtain ⟨middle, hmiddle⟩ := ih honce fun which text hmem =>
      hread which text (List.mem_append_left _ hmem)
    obtain ⟨after, hadd⟩ := (holds_of_addAll hmiddle).exists_add hnew fun which text heq =>
      hread which text (heq ▸ List.mem_append_right _ (List.mem_singleton_self _))
    refine ⟨after, ?_⟩
    rw [addAll_append]
    exact bind_eq_ok_iff.2 ⟨middle, hmiddle, (addAll_singleton _ _).trans hadd⟩

end Draft

/-! ## The invocation

  A draft without a name cannot be completed; every other field has a default. -/

variable {clauses clauses' : List Clause} {draft : Draft} {invocation invocation' : Invocation}

/-- Clauses ask for one invocation only. -/
theorem Means.eq (h : Means clauses invocation) (h' : Means clauses invocation')
    (honce : (clauses.map Clause.switch).Nodup) : invocation = invocation' := by
  have hname := Option.some.inj (h.name.eq h'.name honce)
  have hquiet : invocation.quiet = invocation'.quiet := by
    rw [Bool.eq_iff_iff, h.quiet, h'.quiet]
  have huntagged : invocation.settings.untaggedFilesDisallowed =
      invocation'.settings.untaggedFilesDisallowed := by
    rw [Bool.eq_iff_iff, h.untaggedFilesDisallowed, h'.untaggedFilesDisallowed]
  cases invocation
  cases invocation'
  rw [Invocation.mk.injEq]
  refine ⟨hname, hquiet, ?_⟩
  rw [Settings.mk.injEq]
  exact ⟨h.seed.eq h'.seed honce, h.depth.eq h'.depth honce,
    h.branchFactor.eq h'.branchFactor honce, h.maxFiles.eq h'.maxFiles honce,
    h.maxFileSize.eq h'.maxFileSize honce, h.maxTags.eq h'.maxTags honce,
    h.tagDensity.eq h'.tagDensity honce, huntagged, h.root.eq h'.root honce⟩

/-- Completing a draft gives the invocation that its clauses ask for. -/
theorem Draft.Holds.means_of_complete (h : draft.Holds clauses)
    (hcomplete : draft.complete = .ok invocation) : Means clauses invocation := by
  cases hname : draft.name with
  | none =>
    rw [Draft.complete, hname] at hcomplete
    cases hcomplete
  | some name =>
    rw [Draft.complete, hname] at hcomplete
    cases hcomplete
    exact {
      name := hname ▸ h.gives .name
      seed := h.gives .seed
      depth := ⟨_, h.gives .depth, rfl⟩
      branchFactor := ⟨_, h.gives .branchFactor, rfl⟩
      maxFiles := ⟨_, h.gives .maxFiles, rfl⟩
      maxFileSize := ⟨_, h.gives .maxFileSize, rfl⟩
      maxTags := ⟨_, h.gives .maxTags, rfl⟩
      tagDensity := ⟨_, h.gives .tagDensity, rfl⟩
      root := ⟨_, h.gives .root, rfl⟩
      untaggedFilesDisallowed := h.raised .untaggedFilesDisallowed
      quiet := h.raised .quiet }

/-- Acceptable clauses have a draft that holds them and asks for what they mean.  That a name is
    among them is what completes the draft. -/
theorem Acceptable.exists_means (h : Acceptable clauses) :
    ∃ draft invocation, Draft.addAll {} clauses = .ok draft ∧
      draft.complete = .ok invocation ∧ Means clauses invocation := by
  obtain ⟨draft, hadd⟩ := Draft.exists_addAll h.once h.readable
  have hholds := Draft.holds_of_addAll hadd
  obtain ⟨text, hmem⟩ := h.named
  obtain ⟨name, hname, -⟩ := (hholds.gives .name).eq_of_mem h.once hmem
  have hcomplete : ∃ invocation, draft.complete = .ok invocation := by
    change draft.name = some name at hname
    rw [Draft.complete, hname]
    exact ⟨_, rfl⟩
  obtain ⟨invocation, hcomplete⟩ := hcomplete
  exact ⟨draft, invocation, hadd, hcomplete, hholds.means_of_complete hcomplete⟩

/-- Whether clauses are acceptable does not depend on their order. -/
theorem Acceptable.perm (h : Acceptable clauses) (hperm : clauses.Perm clauses') :
    Acceptable clauses' where
  once := (hperm.map Clause.switch).nodup_iff.1 h.once
  named := h.named.imp fun _ hmem => hperm.mem_iff.1 hmem
  readable which text hmem := h.readable which text (hperm.mem_iff.2 hmem)

theorem GivesOr.perm {which : Valued} {default value : which.Carrier}
    (h : GivesOr clauses which default value) (hperm : clauses.Perm clauses') :
    GivesOr clauses' which default value :=
  h.imp fun _ hgiven => ⟨hgiven.1.perm hperm, hgiven.2⟩

/-- The order of the clauses has no bearing on what they ask for. -/
theorem Means.perm (h : Means clauses invocation) (hperm : clauses.Perm clauses') :
    Means clauses' invocation where
  name := h.name.perm hperm
  seed := h.seed.perm hperm
  depth := h.depth.perm hperm
  branchFactor := h.branchFactor.perm hperm
  maxFiles := h.maxFiles.perm hperm
  maxFileSize := h.maxFileSize.perm hperm
  maxTags := h.maxTags.perm hperm
  tagDensity := h.tagDensity.perm hperm
  root := h.root.perm hperm
  untaggedFilesDisallowed := h.untaggedFilesDisallowed.trans hperm.mem_iff
  quiet := h.quiet.trans hperm.mem_iff

variable {arguments arguments' : List String}

/-- Arguments that spell acceptable clauses lead to what these mean. -/
theorem Spells.ofArguments_eq_ok_iff (hspells : Spells arguments clauses)
    (h : Acceptable clauses) :
    Invocation.ofArguments arguments = .ok invocation ↔ Means clauses invocation := by
  obtain ⟨draft, meant, hadd, hcomplete, hmeans⟩ := h.exists_means
  have hdraft := Reader.takeAll_eq_ok_iff.2 ⟨clauses, hspells, hadd⟩
  have hmeant : Invocation.ofArguments arguments = .ok meant :=
    bind_eq_ok_iff.2 ⟨draft, hdraft, hcomplete⟩
  rw [hmeant, Except.ok.injEq]
  constructor
  · rintro rfl
    exact hmeans
  · intro hmeans'
    exact hmeans.eq hmeans' h.once

/-- Arguments that are accepted spell acceptable clauses. -/
theorem exists_spells_of_ofArguments (h : Invocation.ofArguments arguments = .ok invocation) :
    ∃ clauses, Spells arguments clauses ∧ Acceptable clauses := by
  obtain ⟨draft, hdraft, hcomplete⟩ := bind_eq_ok_iff.1 h
  obtain ⟨clauses, hspells, hadd⟩ := Reader.takeAll_eq_ok_iff.1 hdraft
  have hholds := Draft.holds_of_addAll hadd
  obtain ⟨text, hmem, -⟩ := (hholds.means_of_complete hcomplete).name
  refine ⟨clauses, hspells, hholds.once, ⟨text, hmem⟩, ?_⟩
  intro which text hmem
  obtain ⟨value, -, hvalue⟩ := (hholds.gives which).eq_of_mem hholds.once hmem
  rw [hvalue]
  exact Option.some_ne_none value

/-- **Arguments are accepted if and only if they spell acceptable clauses, and then they lead to
    what the clauses mean.**  Other arguments that spell the same clauses, in any order and in any
    way, lead to the same. -/
theorem ofArguments_accepts (arguments : List String) :
    ((∃ invocation, Invocation.ofArguments arguments = .ok invocation) ↔
      ∃ clauses, Spells arguments clauses ∧ Acceptable clauses) ∧
    ∀ clauses, Spells arguments clauses → Acceptable clauses →
      (∀ invocation, Invocation.ofArguments arguments = .ok invocation ↔
        Means clauses invocation) ∧
      ∀ arguments' clauses', Spells arguments' clauses' → clauses.Perm clauses' →
        Invocation.ofArguments arguments' = Invocation.ofArguments arguments := by
  constructor
  · constructor
    · rintro ⟨invocation, h⟩
      exact exists_spells_of_ofArguments h
    · rintro ⟨clauses, hspells, h⟩
      obtain ⟨-, invocation, -, -, hmeans⟩ := h.exists_means
      exact ⟨invocation, (hspells.ofArguments_eq_ok_iff h).2 hmeans⟩
  · intro clauses hspells h
    refine ⟨fun invocation => hspells.ofArguments_eq_ok_iff h, ?_⟩
    intro arguments' clauses' hspells' hperm
    obtain ⟨-, invocation, -, -, hmeans⟩ := h.exists_means
    rw [(hspells.ofArguments_eq_ok_iff h).2 hmeans]
    exact (hspells'.ofArguments_eq_ok_iff (h.perm hperm)).2 (hmeans.perm hperm)

/-- Two flags and a switch in one argument, its value in the next, and a word with its value
    attached. -/
theorem spells_cluster :
    Spells ["-uqn", "x", "--seed=9"]
      [.flag .untaggedFilesDisallowed, .flag .quiet, .value .name "x", .value .seed "9"] := by
  have hopen := Open.letters [.untaggedFilesDisallowed, .quiet] .name
  have hcomplete := Complete.wordEquals .seed "9"
  rw [show cluster _ = "-uqn" by decide] at hopen
  rw [show "--" ++ _ ++ "=" ++ "9" = "--seed=9" by decide] at hcomplete
  exact .opened hopen (.inr (by simp)) (.complete hcomplete .nil)

/-- The same clauses by words and by a letter with its value attached, in another order and with
    an end mark. -/
theorem spells_words :
    Spells ["-s9", "--name", "x", "-q", "--untagged-files-disallowed", "--"]
      [.value .seed "9", .value .name "x", .flag .quiet, .flag .untaggedFilesDisallowed] := by
  have hseed := Complete.lettersValue [] .seed "9" (by decide) (by simp)
  have hname := Open.word .name
  have hquiet := Complete.letters [.quiet] (by decide)
  have huntagged := Complete.word .untaggedFilesDisallowed
  rw [show cluster _ ++ "9" = "-s9" by decide] at hseed
  rw [show "--" ++ _ = "--name" by decide] at hname
  rw [show cluster _ = "-q" by decide] at hquiet
  rw [show "--" ++ _ = "--untagged-files-disallowed" by decide] at huntagged
  exact .complete hseed (.opened hname (.inr (by simp))
    (.complete hquiet (.complete huntagged .endMark)))

/-- A cluster with a detached value and a word with an attached one lead to what they mean, and so
    does the same in another order and another way. -/
theorem spellings_alike :
    ∃ invocation, Invocation.ofArguments ["-uqn", "x", "--seed=9"] = .ok invocation ∧
      invocation.name = "x" ∧ invocation.quiet = true ∧ invocation.settings =
        { seed := some 9, untaggedFilesDisallowed := true } ∧
      Means [.flag .untaggedFilesDisallowed, .flag .quiet, .value .name "x", .value .seed "9"]
        invocation ∧
      Invocation.ofArguments ["-s9", "--name", "x", "-q", "--untagged-files-disallowed", "--"] =
        .ok invocation := by
  have hacceptable : Acceptable
      [.flag .untaggedFilesDisallowed, .flag .quiet, .value .name "x", .value .seed "9"] := by
    refine ⟨by decide, ⟨"x", by decide⟩, ?_⟩
    intro which text hmem
    simp only [List.mem_cons, List.not_mem_nil, reduceCtorEq, Clause.value.injEq, or_false,
      false_or] at hmem
    obtain ⟨rfl, rfl⟩ | ⟨rfl, rfl⟩ := hmem
    · exact Option.some_ne_none "x"
    · exact Option.isSome_iff_ne_none.1 (by decide +kernel)
  have hperm : List.Perm
      [Clause.flag .untaggedFilesDisallowed, .flag .quiet, .value .name "x", .value .seed "9"]
      [.value .seed "9", .value .name "x", .flag .quiet, .flag .untaggedFilesDisallowed] := by
    decide
  obtain ⟨haccepted, halike⟩ :=
    (ofArguments_accepts ["-uqn", "x", "--seed=9"]).2 _ spells_cluster hacceptable
  have hok : Invocation.ofArguments ["-uqn", "x", "--seed=9"] = .ok
      ⟨"x", true, { seed := some 9, untaggedFilesDisallowed := true }⟩ := by decide +kernel
  exact ⟨_, hok, rfl, rfl, rfl, (haccepted _).1 hok, (halike _ _ spells_words hperm).trans hok⟩

end Thicket.Command
