/-
  What the operations do at a place.

  With an absolute path in hand an operation is a question to the view of the disk: is the path
  within the limits, and what is at its place?  Each lemma here answers for one operation, so
  that the making of a fixture can be followed by places alone.

  1. **Making entries** — a directory (`makeDirectory_ofPlace`), a file (`makeFile_ofPlace`), a
     file opened for writing (`openForWriting_ofPlace`).  They are equations, with every answer in
     them: what is made, that there is something already, and that the path is too long.
  2. **Resolved paths** — a path that resolves leads to something that is there and is no link
     (`get?_of_resolve`).  This is by induction on the walk: a walk that hands no link over arrives
     where none is left to follow (`Settled`).

  Both limits are tested at the last name only.  The limit on the whole path is tested before the
  walk, the limit on a name when its slot is looked up; `Path.isSpellable` puts the two together.
-/
import Thicket.Proofs.Disk.Reach

namespace Thicket

/-- The path of a place and its last name are within the limits. -/
def Path.isSpellable : Place → Bool
  | [] => true
  | name :: place => Path.fits (Path.ofPlace (name :: place)) && Path.nameFits name

/-- What counts are the bytes of all names, each with a slash before it, and those of the last. -/
theorem Path.isSpellable_cons_iff {name : String} {place : Place} :
    isSpellable (name :: place) = true ↔
      ((name :: place).map fun step => step.utf8ByteSize + 1).sum < sizeLimit ∧
        name.utf8ByteSize ≤ nameLimit := by
  rw [isSpellable, Bool.and_eq_true, fits, nameFits, decide_eq_true_iff, decide_eq_true_iff,
    ← trunk_cons, utf8ByteSize_trunk]

/-- A path that cannot be used although its last name can is too long. -/
theorem Path.sizeLimit_le_of_not_isSpellable {name : String} {place : Place}
    (hname : name.utf8ByteSize ≤ nameLimit) (h : ¬ isSpellable (name :: place) = true) :
    sizeLimit ≤ (ofPlace (name :: place)).utf8ByteSize := by
  rcases Nat.lt_or_ge (ofPlace (name :: place)).utf8ByteSize sizeLimit with hlt | hle
  · exact absurd (Bool.and_eq_true_iff.2 ⟨decide_eq_true hlt, decide_eq_true hname⟩) h
  · exact hle

namespace Disk

variable {disk : Disk} {name : String} {place : Place}

/-! ## Making entries

  The directory that holds the place is there, so the walk arrives at the slot
  (`arrive_ofPlace`) and what is left is to look into it. -/

/-- A name with a NUL in it makes no path. -/
theorem makeDirectory_ofPlace_of_nul (hname : '\x00' ∈ name.toList) :
    disk.makeDirectory (Path.ofPlace (name :: place)) = .error .nulInPath := by
  have hcontains : (Path.ofPlace (name :: place)).toList.contains '\x00' = true :=
    Path.contains_nul_ofPlace.2 ⟨name, List.mem_cons_self .., hname⟩
  rw [makeDirectory, arrive, if_pos hcontains]
  rfl

/-- **Making a directory at a place.** -/
theorem makeDirectory_ofPlace (hname : Path.IsStep name)
    (hplace : disk.get? place = some .directory) :
    disk.makeDirectory (Path.ofPlace (name :: place)) =
      if Path.isSpellable (name :: place) then
        if disk.get? (name :: place) = none then .ok (disk.add place name .directory)
        else .error .alreadyThere
      else .error .nameTooLong := by
  have hlook := lookUp_of_isStep hname disk place
  rw [makeDirectory, stopping, arrive_ofPlace hname hplace (Or.inl rfl), Path.isSpellable]
  by_cases hfits : Path.fits (Path.ofPlace (name :: place)) = true
  · by_cases hshort : Path.nameFits name = true
    · cases hentry : disk.get? (name :: place) <;>
        simp [hfits, hshort, hentry, hlook, bind, Except.bind, pure, Except.pure, throw,
          throwThe, MonadExceptOf.throw]
    · simp [hfits, hshort, hlook, bind, Except.bind]
  · simp [hfits, bind, Except.bind]

/-- **Making a file at a place.** -/
theorem makeFile_ofPlace (hname : Path.IsStep name)
    (hplace : disk.get? place = some .directory) (content : ByteArray) :
    disk.makeFile (Path.ofPlace (name :: place)) content =
      if Path.isSpellable (name :: place) then
        if disk.get? (name :: place) = none then .ok (disk.add place name (.file content))
        else .error .alreadyThere
      else .error .nameTooLong := by
  have hlook := lookUp_of_isStep hname disk place
  rw [makeFile, stopping, arrive_ofPlace hname hplace (Or.inl rfl), Path.isSpellable]
  by_cases hfits : Path.fits (Path.ofPlace (name :: place)) = true
  · by_cases hshort : Path.nameFits name = true
    · cases hentry : disk.get? (name :: place) <;>
        simp [hfits, hshort, hentry, hlook, bind, Except.bind, pure, Except.pure, throw,
          throwThe, MonadExceptOf.throw]
    · simp [hfits, hshort, hlook, bind, Except.bind]
  · simp [hfits, bind, Except.bind]

/-- **Opening a file at a place for writing**, if there is no link to look through. -/
theorem openForWriting_ofPlace (hname : Path.IsStep name)
    (hplace : disk.get? place = some .directory)
    (hlink : ∀ target, disk.get? (name :: place) ≠ some (.link target)) :
    disk.openForWriting (Path.ofPlace (name :: place)) =
      if Path.isSpellable (name :: place) then
        match disk.get? (name :: place) with
        | none => .ok (.file (name :: place) 0, disk.add place name (.file .empty))
        | some (.file _) => .ok (.file (name :: place) 0, disk.setContent (name :: place) .empty)
        | some .fullDevice => .ok (.full, disk)
        | some _ => .error .isDirectory
      else .error .nameTooLong := by
  have hlook := lookUp_of_isStep hname disk place
  rw [openForWriting, stoppingAtSlash, arrive_ofPlace hname hplace (Or.inr hlink),
    Path.isSpellable]
  by_cases hfits : Path.fits (Path.ofPlace (name :: place)) = true
  · by_cases hshort : Path.nameFits name = true
    · -- a link was ruled out, everything else is answered by what is there
      cases hentry : disk.get? (name :: place) with
      | none => simp [hfits, hshort, hentry, hlook, bind, Except.bind, pure, Except.pure]
      | some entry =>
        cases entry with
        | link target => exact absurd hentry (hlink target)
        | directory =>
          simp [hfits, hshort, hentry, hlook, bind, Except.bind, throw, throwThe,
            MonadExceptOf.throw]
        | file content =>
          simp [hfits, hshort, hentry, hlook, bind, Except.bind, pure, Except.pure]
        | fullDevice =>
          simp [hfits, hshort, hentry, hlook, bind, Except.bind, pure, Except.pure]
    · simp [hfits, hshort, hlook, bind, Except.bind]
  · simp [hfits, bind, Except.bind]

/-- An entry that is added at a spellable free place is there, and nothing else changes. -/
theorem get?_add_of_isSpellable {entry : Entry} (hname : Path.IsStep name)
    (hplace : disk.get? place = some .directory) (hspell : Path.isSpellable (name :: place) = true)
    (hfree : disk.get? (name :: place) = none) (other : Place) :
    (disk.add place name entry).get? other =
      if name :: place = other then some entry else disk.get? other := by
  have hfits : Path.nameFits name = true := (Bool.and_eq_true_iff.1 hspell).2
  exact get?_add hplace hfree ⟨hname, hfits⟩ other

/-! ## Resolved paths

  Nothing is assumed of these paths: they may be relative, go up and lead through links. -/

/-- What is at an arrival, if no link is left to follow there.  It is what a walk comes to that
    follows the link at its end as well. -/
def Settled (disk : Disk) : Arrival → Prop
  | .directory place => disk.get? place = some .directory
  | .slot parent name _ => ∀ target, disk.get? (name :: parent) ≠ some (.link target)

/-- Above a directory there is a directory; the top is above itself. -/
theorem get?_tail_eq_directory (h : disk.get? place = some .directory) :
    disk.get? place.tail = some .directory := by
  cases place with
  | nil => exact h
  | cons name above =>
    have hexists : disk.get? (name :: above) ≠ none := by simp [h]
    exact get?_tail hexists

/-- A walk that hands nothing over is settled where it arrives.  By induction on the pieces:
    where a link is met it is followed with its target in front of the pieces that are left,
    which is the hypothesis. -/
theorem settled_of_walkPieces {gait : Gait} (hgait : ∀ slashed, gait.handOver slashed = false)
    {follow : Place → List String → Except Cause Arrival}
    (hfollow : ∀ place pieces arrival, pieces ≠ [] → follow place pieces = .ok arrival →
      disk.Settled arrival)
    {pieces : List String} {arrival : Arrival}
    (hstart : pieces ≠ [] ∨ disk.get? place = some .directory)
    (h : walkPieces disk gait follow place pieces = .ok arrival) : disk.Settled arrival := by
  have hwalked := walked_of_walkPieces h
  clear h
  induction hwalked with
  | arrived place => exact hstart.resolve_left fun hne => hne rfl
  | idle hplace _ _ ih => exact ih (Or.inr hplace)
  | above hplace _ ih => exact ih (Or.inr (get?_tail_eq_directory hplace))
  | last _ _ _ _ hstop =>
    refine hstop.resolve_left ?_
    rw [hgait]
    exact Bool.false_ne_true
  | link _ _ _ _ hwalk =>
    -- the pieces of the link come before the rest, and there is at least one
    refine hfollow _ _ _ ?_ hwalk
    rw [Path.split, ne_eq, List.append_eq_nil_iff, List.map_eq_nil_iff, not_and]
    exact fun hnil => absurd hnil (Path.splitChars_ne_nil _)
  | enter _ _ _ hlast _ _ _ ih =>
    refine ih (Or.inl ?_)
    rintro rfl
    exact hlast rfl

/-- By induction on the number of links that may be followed. -/
theorem settled_of_walk {gait : Gait} (hgait : ∀ slashed, gait.handOver slashed = false)
    (links : Nat) {pieces : List String} {arrival : Arrival} (hpieces : pieces ≠ [])
    (h : walk disk gait links place pieces = .ok arrival) : disk.Settled arrival := by
  induction links generalizing place pieces arrival with
  | zero =>
    refine settled_of_walkPieces hgait ?_ (Or.inl hpieces) h
    intro place pieces arrival _ hfollow
    cases hfollow
  | succ links ih =>
    refine settled_of_walkPieces hgait ?_ (Or.inl hpieces) h
    intro place pieces arrival hne hfollow
    exact ih hne hfollow

/-- Where a path arrives its pieces were walked. -/
theorem arrive_eq_ok {gait : Gait} {path : String} {arrival : Arrival}
    (h : disk.arrive gait path = .ok arrival) :
    walk disk gait linkLimit (if Path.isAbsolute path then [] else disk.home) (Path.split path) =
      .ok arrival := by
  rw [arrive] at h
  split at h
  · cases h
  · split at h
    · cases h
    · split at h
      · cases h
      · exact h

/-- A path arrives where another walk of its pieces does, from the same start. -/
theorem arrive_congr {after : Disk} {gait gait' : Gait} {path : String} {arrival : Arrival}
    (hhome : after.home = disk.home)
    (hwalk : ∀ start pieces, walk disk gait linkLimit start pieces = .ok arrival →
      walk after gait' linkLimit start pieces = .ok arrival)
    (h : disk.arrive gait path = .ok arrival) : after.arrive gait' path = .ok arrival := by
  rw [arrive] at h ⊢
  split at h
  · cases h
  · rename_i hnul
    rw [if_neg hnul]
    split at h
    · cases h
    · rename_i hempty
      rw [if_neg hempty]
      split at h
      · cases h
      · rename_i hfits
        rw [if_neg hfits, hhome]
        exact hwalk _ _ h

/-- A path that is followed through all links is settled where it arrives. -/
theorem settled_of_arrive {gait : Gait} (hgait : ∀ slashed, gait.handOver slashed = false)
    {path : String} {arrival : Arrival} (h : disk.arrive gait path = .ok arrival) :
    disk.Settled arrival := by
  have hpieces : Path.split path ≠ [] := by
    rw [Path.split, ne_eq, List.map_eq_nil_iff]
    exact Path.splitChars_ne_nil _
  exact settled_of_walk hgait linkLimit hpieces (arrive_eq_ok h)

/-- What was found is a directory that the path arrived at, or the entry in a slot. -/
theorem findAt_eq_ok {gait : Gait} {path : String} {entry : Entry}
    (h : disk.findAt gait path = .ok (place, entry)) :
    ∃ arrival, disk.arrive gait path = .ok arrival ∧
      (arrival = .directory place ∧ entry = .directory ∨
        ∃ parent name slashed, arrival = .slot parent name slashed ∧ place = name :: parent ∧
          disk.get? place = some entry) := by
  rw [findAt] at h
  cases harrive : disk.arrive gait path with
  | error cause => simp [harrive, bind, Except.bind] at h
  | ok arrival =>
    refine ⟨arrival, rfl, ?_⟩
    cases arrival with
    | directory there =>
      simp [harrive, bind, Except.bind, pure, Except.pure] at h
      obtain ⟨rfl, rfl⟩ := h
      exact Or.inl ⟨rfl, rfl⟩
    | slot parent last slashed =>
      refine Or.inr ⟨parent, last, slashed, rfl, ?_⟩
      cases hlook : disk.lookUp parent last with
      | error cause => simp [harrive, hlook, bind, Except.bind] at h
      | ok found =>
        obtain ⟨-, -, rfl⟩ := lookUp_eq_ok hlook
        cases hentry : disk.get? (last :: parent) with
        | none =>
          simp [harrive, hlook, hentry, bind, Except.bind, throw, throwThe,
            MonadExceptOf.throw] at h
        | some found =>
          simp only [harrive, hlook, hentry, bind, Except.bind] at h
          split at h
          · cases h
          · cases h
            exact ⟨rfl, hentry⟩

/-- **What is found by following all links** is there and is no link. -/
theorem get?_of_findAt {gait : Gait} (hgait : ∀ slashed, gait.handOver slashed = false)
    {path : String} {entry : Entry} (h : disk.findAt gait path = .ok (place, entry)) :
    disk.get? place = some entry ∧ ∀ target, entry ≠ .link target := by
  obtain ⟨arrival, harrive, hfound⟩ := findAt_eq_ok h
  have hsettled := settled_of_arrive hgait harrive
  rcases hfound with ⟨rfl, rfl⟩ | ⟨parent, name, slashed, rfl, rfl, hentry⟩
  · exact ⟨hsettled, by simp⟩
  · refine ⟨hentry, ?_⟩
    rintro target rfl
    exact hsettled target hentry

theorem resolve_eq_ok {path : String} (h : disk.resolve path = .ok place) :
    ∃ entry, disk.findAt resolving path = .ok (place, entry) := by
  rw [resolve] at h
  cases hfind : disk.findAt resolving path with
  | error cause => simp [hfind, bind, Except.bind] at h
  | ok found =>
    simp [hfind, bind, Except.bind, pure, Except.pure] at h
    subst h
    exact ⟨found.2, rfl⟩

/-- **A path that resolves leads to something that is there and is no link.** -/
theorem get?_of_resolve {path : String} (h : disk.resolve path = .ok place) :
    disk.get? place ≠ none ∧ ∀ target, disk.get? place ≠ some (.link target) := by
  obtain ⟨entry, hfind⟩ := resolve_eq_ok h
  obtain ⟨hentry, hlink⟩ := get?_of_findAt (fun _ => rfl) hfind
  rw [hentry]
  exact ⟨Option.some_ne_none _, fun target heq => hlink target (Option.some.inj heq)⟩

end Disk

end Thicket
