/-
  What an absolute path reaches.

  The path of an entry whose directory is there leads to that entry, with no link on the way:
  whatever holds an entry is a directory and not a link to one (`walkPieces_along`).  So the walk
  ends at the slot that the place names, and it is refused only if the text is too long
  (`arrive_ofPlace`).  From this follows what each operation does at a place; none of them
  needs the walk again.

  Of other paths all that can be said is what a walk has done if it arrived.  `Walked` has one
  constructor for each way in which a walk gets on with a piece, and one for each way in which it
  arrives; `walked_of_walkPieces` is the only proof that opens the walk's own case splits.  What
  holds of walks that arrive is shown by induction on it, and by a second induction on the number
  of links where one of them is followed.
-/
import Thicket.Disk.Operations
import Thicket.Proofs.Disk.AbsolutePath

namespace Thicket

namespace Disk

variable {disk : Disk}

/-! ## What holds an entry

  The disk keeps three things true of itself: the top is a directory, whatever holds an entry is
  a directory, and every entry has a proper name.  Read upwards from an entry they hold all the
  way. -/

/-- Whatever is above an entry is a directory. -/
theorem get?_of_append {front place : Place} (hne : front ≠ [])
    (h : disk.get? (front ++ place) ≠ none) : disk.get? place = some .directory := by
  -- one name at a time, from the entry upwards
  induction front with
  | nil => exact absurd rfl hne
  | cons name front ih =>
    have hdirectory : disk.get? (front ++ place) = some .directory := get?_tail h
    by_cases hfront : front = []
    · rw [hfront] at hdirectory
      exact hdirectory
    · exact ih hfront (by rw [hdirectory]; exact Option.some_ne_none _)

/-- All names that lead to an entry are names. -/
theorem isName_of_mem {place : Place} (h : disk.get? place ≠ none) :
    ∀ name ∈ place, Path.IsName name := by
  induction place with
  | nil =>
    intro name hname
    cases hname
  | cons last place ih =>
    have hplace : disk.get? place ≠ none := by
      rw [get?_tail h]
      exact Option.some_ne_none _
    exact List.forall_mem_cons.2 ⟨isName_of_get? h, ih hplace⟩

/-- And so they are names that a path can step to. -/
theorem isStep_of_mem {place : Place} (h : disk.get? place ≠ none) :
    ∀ name ∈ place, Path.IsStep name :=
  fun name hname => (isName_of_mem h name hname).toIsStep

/-! ## Walking

  Along directories a walk takes one name after the other.  All gaits agree there: they differ
  in what they do at the last name. -/

section Walking

variable {handOver : Bool → Bool} {follow : Place → List String → Except Cause Arrival}

/-- One step to a directory that is not the end of the walk. -/
theorem walkPieces_step {name : String} {place : Place} {rest : List String}
    (hrest : ∃ piece ∈ rest, piece ≠ "") (h : disk.get? (name :: place) ≠ none)
    (hlink : ∀ target, disk.get? (name :: place) ≠ some (.link target)) :
    walkPieces disk (anywhere handOver) follow place (name :: rest)
      = walkPieces disk (anywhere handOver) follow (name :: place) rest := by
  have hname : Path.IsName name := isName_of_get? h
  obtain ⟨entry, hentry⟩ := Option.ne_none_iff_exists'.1 h
  have hlast : rest.all (fun piece => decide (piece = "")) = false := by
    rw [List.all_eq_false]
    obtain ⟨piece, hmem, hne⟩ := hrest
    exact ⟨piece, hmem, by simpa using hne⟩
  have hfits : Path.nameFits name = true := hname.fits
  rw [walkPieces, if_neg (by simp [get?_tail h]), if_neg (by simp [hname.ne_empty, hname.ne_here]),
    if_neg hname.ne_above]
  simp only [hlast, anywhere, Bool.false_and, Bool.false_eq_true, if_false, Bool.not_true,
    Bool.and_false, hentry, hfits]
  cases entry with
  | link target => exact absurd hentry (hlink target)
  | directory => rfl
  | file content => rfl
  | fullDevice => rfl

/-- Walking along the names that lead from a place to a directory below it arrives there. -/
theorem walkPieces_along {rest : List String} (hrest : ∃ piece ∈ rest, piece ≠ "")
    (names : List String) {place : Place}
    (h : disk.get? (names.reverse ++ place) = some .directory) :
    walkPieces disk (anywhere handOver) follow place (names ++ rest)
      = walkPieces disk (anywhere handOver) follow (names.reverse ++ place) rest := by
  induction names generalizing place with
  | nil => rfl
  | cons name names ih =>
    rw [List.reverse_cons, List.append_assoc] at h ⊢
    -- the next name is a directory: it is the goal, or something is below it
    have hdirectory : disk.get? (name :: place) = some .directory := by
      by_cases hnames : names.reverse = []
      · rw [hnames] at h
        exact h
      · exact get?_of_append hnames (by
          rw [List.singleton_append] at h
          rw [h]
          exact Option.some_ne_none _)
    obtain ⟨piece, hmem, hne⟩ := hrest
    rw [List.cons_append, walkPieces_step ⟨piece, List.mem_append_right _ hmem, hne⟩
      (by simp [hdirectory]) (by simp [hdirectory])]
    exact ih h

/-- At the last name, where the walk stops or there is no link to follow. -/
theorem walkPieces_last {name : String} {place : Place} (hname : Path.IsStep name)
    (hplace : disk.get? place = some .directory)
    (hstop : handOver false = true ∨ ∀ target, disk.get? (name :: place) ≠ some (.link target)) :
    walkPieces disk (anywhere handOver) follow place [name] = .ok (.slot place name false) := by
  rw [walkPieces, if_neg (by simp [hplace]), if_neg (by simp [hname.ne_empty, hname.ne_here]),
    if_neg hname.ne_above]
  rcases hstop with hstop | hlink
  · simp [anywhere, hstop]
  · by_cases hgait : handOver false = true
    · simp [anywhere, hgait]
    · cases hentry : disk.get? (name :: place) with
      | none => simp [anywhere, hgait, Path.asksForDirectory]
      | some entry =>
        cases entry with
        | link target => exact absurd hentry (hlink target)
        | directory => simp [anywhere, hgait, Path.asksForDirectory]
        | file content => simp [anywhere, hgait, Path.asksForDirectory]
        | fullDevice => simp [anywhere, hgait, Path.asksForDirectory]

end Walking

/-! ## What a walk has done

  A walk that follows a link is handed over to a walk with one link fewer, so `link` keeps the
  equation of that walk and not a record of it. -/

/-- The ways in which a walk gets on, and those in which it arrives. -/
inductive Walked (disk : Disk) (gait : Gait)
    (follow : Place → List String → Except Cause Arrival) :
    Place → List String → Arrival → Prop where
  | arrived (place : Place) : Walked disk gait follow place [] (.directory place)
  | idle {place : Place} {piece : String} {rest : List String} {arrival : Arrival}
    (hplace : disk.get? place = some .directory) (hpiece : piece = "" ∨ piece = ".")
    (h : Walked disk gait follow place rest arrival) :
    Walked disk gait follow place (piece :: rest) arrival
  | above {place : Place} {rest : List String} {arrival : Arrival}
    (hplace : disk.get? place = some .directory)
    (h : Walked disk gait follow place.tail rest arrival) :
    Walked disk gait follow place (".." :: rest) arrival
  /-- At the last name, where the walk stops or there is no link. -/
  | last {place : Place} {name : String} {rest : List String}
    (hplace : disk.get? place = some .directory) (hname : ¬ (name = "" ∨ name = "."))
    (habove : name ≠ "..") (hlast : (rest.all fun piece => decide (piece = "")) = true)
    (hstop : gait.handOver (!rest.isEmpty) = true ∨
      ∀ target, disk.get? (name :: place) ≠ some (.link target)) :
    Walked disk gait follow place (name :: rest) (.slot place name (!rest.isEmpty))
  | link {place : Place} {name target : String} {rest : List String} {arrival : Arrival}
    (hplace : disk.get? place = some .directory) (hname : ¬ (name = "" ∨ name = "."))
    (habove : name ≠ "..") (hentry : disk.get? (name :: place) = some (.link target))
    (h : follow (if Path.isAbsolute target then [] else place) (Path.split target ++ rest) =
      .ok arrival) :
    Walked disk gait follow place (name :: rest) arrival
  /-- At a name that is neither a link nor the last one. -/
  | enter {place : Place} {name : String} {rest : List String} {arrival : Arrival} {entry : Entry}
    (hplace : disk.get? place = some .directory) (hname : ¬ (name = "" ∨ name = "."))
    (habove : name ≠ "..") (hlast : ¬ (rest.all fun piece => decide (piece = "")) = true)
    (hentry : disk.get? (name :: place) = some entry) (hlink : ∀ target, entry ≠ .link target)
    (h : Walked disk gait follow (name :: place) rest arrival) :
    Walked disk gait follow place (name :: rest) arrival

/-- **What a walk that arrives has done.** -/
theorem walked_of_walkPieces {gait : Gait}
    {follow : Place → List String → Except Cause Arrival} {place : Place} {pieces : List String}
    {arrival : Arrival} (h : walkPieces disk gait follow place pieces = .ok arrival) :
    Walked disk gait follow place pieces arrival := by
  induction pieces generalizing place with
  | nil =>
    rw [walkPieces] at h
    cases h
    exact .arrived place
  | cons piece rest ih =>
    rw [walkPieces] at h
    -- the tests of the walk in their order; each that stops it is the end of a constructor
    by_cases hplace : disk.get? place = some .directory
    · rw [if_neg (by simp [hplace])] at h
      by_cases hidle : piece = "" ∨ piece = "."
      · rw [if_pos hidle] at h
        exact .idle hplace hidle (ih h)
      · rw [if_neg hidle] at h
        by_cases habove : piece = ".."
        · rw [if_pos habove] at h
          subst habove
          exact .above hplace (ih h)
        · rw [if_neg habove] at h
          dsimp only at h
          split at h
          · rename_i hstop
            cases h
            obtain ⟨hlast, hhand⟩ := Bool.and_eq_true_iff.1 hstop
            exact .last hplace hidle habove hlast (Or.inl hhand)
          · split at h
            · cases h
            · split at h
              · -- a link that is not handed over is followed with all that is left
                rename_i target hentry
                exact .link hplace hidle habove hentry h
              · rename_i hlink
                split at h
                · cases h
                · split at h
                  · rename_i hlast
                    cases h
                    exact .last hplace hidle habove hlast (Or.inr hlink)
                  · rename_i hlast
                    split at h
                    · cases h
                    · cases hentry : disk.get? (piece :: place) with
                      | none =>
                        rw [hentry, Option.isNone_none, if_pos rfl] at h
                        cases h
                      | some entry =>
                        rw [hentry, Option.isNone_some, if_neg Bool.false_ne_true] at h
                        have hno : ∀ target, entry ≠ .link target := by
                          rintro target rfl
                          exact hlink target hentry
                        exact .enter hplace hidle habove hlast hentry hno (ih h)
    · rw [if_pos hplace] at h
      cases h

/-! ## Walking an absolute path

  The first piece of an absolute path is empty and leaves the walk at the top. -/

/-- A walk of an absolute path begins at the top, with the names that lead to its place. -/
theorem arrive_eq_walk {gait : Gait} {name : String} {place : Place}
    (hsteps : ∀ step ∈ name :: place, Path.IsStep step) :
    disk.arrive gait (Path.ofPlace (name :: place)) =
      if Path.fits (Path.ofPlace (name :: place)) then
        walk disk gait linkLimit [] (place.reverse ++ [name])
      else .error .nameTooLong := by
  have hnul : (Path.ofPlace (name :: place)).toList.contains '\x00' = false := by
    rw [Bool.eq_false_iff]
    intro hcontains
    obtain ⟨step, hmem, hstep⟩ := Path.contains_nul_ofPlace.1 hcontains
    exact (hsteps step hmem).no_nul hstep
  have hempty : ∀ follow, walkPieces disk gait follow [] ("" :: (name :: place).reverse)
      = walkPieces disk gait follow [] (place.reverse ++ [name]) := by
    intro follow
    rw [walkPieces, if_neg (by simp [get?_nil]), if_pos (Or.inl rfl), List.reverse_cons]
  rw [arrive, hnul, Path.isAbsolute_ofPlace, Path.split_ofPlace hsteps]
  simp only [Bool.false_eq_true, if_false, if_neg (Path.ofPlace_cons_ne_empty name place), if_true]
  by_cases hfits : Path.fits (Path.ofPlace (name :: place)) = true
  · simp only [hfits, Bool.not_true, Bool.false_eq_true, if_false, if_true, linkLimit, walk, hempty]
  · simp [hfits]

/-- **The path of a place in a directory arrives at its slot**, unless it is too long. -/
theorem arrive_ofPlace {handOver : Bool → Bool} {name : String} {place : Place}
    (hname : Path.IsStep name) (hplace : disk.get? place = some .directory)
    (hstop : handOver false = true ∨ ∀ target, disk.get? (name :: place) ≠ some (.link target)) :
    disk.arrive (anywhere handOver) (Path.ofPlace (name :: place)) =
      if Path.fits (Path.ofPlace (name :: place)) then .ok (.slot place name false)
      else .error .nameTooLong := by
  have hexists : disk.get? place ≠ none := by simp [hplace]
  have hsteps := List.forall_mem_cons.2 ⟨hname, isStep_of_mem hexists⟩
  have halong : ∀ follow, walkPieces disk (anywhere handOver) follow [] (place.reverse ++ [name])
      = .ok (.slot place name false) := by
    intro follow
    have hwalk : walkPieces disk (anywhere handOver) follow [] (place.reverse ++ [name])
        = walkPieces disk (anywhere handOver) follow (place.reverse.reverse ++ []) [name] :=
      walkPieces_along ⟨name, List.mem_singleton_self name, hname.ne_empty⟩ place.reverse
        (by simpa using hplace)
    rw [hwalk, List.reverse_reverse, List.append_nil]
    exact walkPieces_last hname hplace hstop
  rw [arrive_eq_walk hsteps, linkLimit, walk, halong]

/-- The path of a place in something that is no directory arrives nowhere. -/
theorem arrive_ofPlace_of_not_directory {handOver : Bool → Bool} {name : String} {place : Place}
    (hname : Path.IsStep name) (hexists : disk.get? place ≠ none)
    (hplace : disk.get? place ≠ some .directory)
    (hlink : ∀ target, disk.get? place ≠ some (.link target)) :
    ∃ cause, disk.arrive (anywhere handOver) (Path.ofPlace (name :: place)) = .error cause := by
  have hsteps := List.forall_mem_cons.2 ⟨hname, isStep_of_mem hexists⟩
  have halong : ∀ follow, walkPieces disk (anywhere handOver) follow [] (place.reverse ++ [name])
      = .error .notDirectory := by
    intro follow
    cases place with
    | nil => exact absurd disk.get?_nil hplace
    | cons last above =>
      -- the walk comes to what is there and can go no further
      have hwalk : walkPieces disk (anywhere handOver) follow [] (above.reverse ++ [last, name])
          = walkPieces disk (anywhere handOver) follow (above.reverse.reverse ++ []) [last, name] :=
        walkPieces_along ⟨name, by simp, hname.ne_empty⟩ above.reverse
          (by simpa using get?_tail hexists)
      rw [List.reverse_cons, List.append_assoc, List.singleton_append, hwalk, List.reverse_reverse,
        List.append_nil,
        walkPieces_step ⟨name, List.mem_singleton_self name, hname.ne_empty⟩ hexists hlink,
        walkPieces, if_pos hplace]
  rw [arrive_eq_walk hsteps, linkLimit, walk, halong]
  split
  · exact ⟨_, rfl⟩
  · exact ⟨_, rfl⟩

end Disk

end Thicket
