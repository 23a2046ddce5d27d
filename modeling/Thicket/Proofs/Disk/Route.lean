/-
  Where paths lead.

  A walk keeps count of the links it follows and gives up for many reasons; where it leads if it
  does not give up is a matter of the disk alone.  `Leads` says so, step by step: a name is an entry
  to step into or a link to be replaced by its own steps.

  1. **Walks and steps** — wherever a walk arrives, the path leads on from there
     (`arrivesAt_of_arrive`), on that disk and on every disk that has some directories more.
  2. **Walks that are repeated** — where directories and links stay as they are, a walk arrives
     again where it arrived (`arrive_following`), whatever becomes of the files.  In particular a
     path that resolves exists (`pathExists_of_resolve`).
  3. **Directories that were just made** — such a directory is the only place its path leads to,
     and there is nothing in it (`bare_of_makeDirectory`).  For a path without steps to the
     directory above this goes on to the directories that were missing on the way
     (`bare_of_makeDirectories`): either nothing was made, or the directory at the end of the path
     was.

  The third part is what the guard against an existing fixture rests on: if the root was missing
  there cannot be anything at the fixture's place in it.  With a step to the directory above it
  can, for the directories that are made need not be the ones that the path ends at.
-/
import Thicket.Proofs.Disk.AddsDirectories
import Thicket.Proofs.Disk.AtPlace
import Thicket.Proofs.Disk.Components

namespace Thicket

namespace Disk

/-! ## Where steps lead

  Each constructor is one step of a walk with no count of links: nothing is said of names that
  are missing, so where a way breaks off the steps lead nowhere. -/

/-- The steps lead from the one place to the other, with all links followed. -/
inductive Leads (disk : Disk) : Place → List String → Place → Prop where
  | arrived (place : Place) : Leads disk place [] place
  | above {place goal : Place} {rest : List String} (h : Leads disk place.tail rest goal) :
    Leads disk place (".." :: rest) goal
  | enter {place goal : Place} {name : String} {rest : List String} {entry : Entry}
    (hname : name ≠ "..") (hentry : disk.get? (name :: place) = some entry)
    (hlink : ∀ target, entry ≠ .link target) (h : Leads disk (name :: place) rest goal) :
    Leads disk place (name :: rest) goal
  | follow {place goal : Place} {name target : String} {rest : List String}
    (hname : name ≠ "..") (hentry : disk.get? (name :: place) = some (.link target))
    (h : Leads disk (Path.startFrom place target) (Path.steps (Path.split target) ++ rest) goal) :
    Leads disk place (name :: rest) goal

/-- The path leads to the place. -/
def LeadsTo (disk : Disk) (path : String) (goal : Place) : Prop :=
  disk.Leads (Path.startFrom disk.home path) (Path.steps (Path.split path)) goal

namespace Leads

variable {disk : Disk} {place goal : Place} {name target : String} {rest : List String}

theorem nil_iff : disk.Leads place [] goal ↔ goal = place := by
  constructor
  · intro h
    cases h
    rfl
  · rintro rfl
    exact .arrived _

/-- A step to the directory above, which is the tail of a place; from the top it leads to the
    top. -/
theorem above_iff : disk.Leads place (".." :: rest) goal ↔ disk.Leads place.tail rest goal := by
  constructor
  · intro h
    cases h with
    | above h => exact h
    | enter hname _ _ _ => exact absurd rfl hname
    | follow hname _ _ => exact absurd rfl hname
  · exact .above

/-- A name of something that is no link leads into it. -/
theorem enter_iff {entry : Entry} (hname : name ≠ "..")
    (hentry : disk.get? (name :: place) = some entry) (hlink : ∀ target, entry ≠ .link target) :
    disk.Leads place (name :: rest) goal ↔ disk.Leads (name :: place) rest goal := by
  constructor
  · intro h
    cases h with
    | above _ => exact absurd rfl hname
    | enter _ _ _ h => exact h
    | follow _ hentry' _ =>
      rw [hentry] at hentry'
      exact absurd (Option.some.inj hentry') (hlink _)
  · exact .enter hname hentry hlink

/-- A name of a link leads where the link's own steps lead, followed by the rest. -/
theorem follow_iff (hname : name ≠ "..")
    (hentry : disk.get? (name :: place) = some (.link target)) :
    disk.Leads place (name :: rest) goal ↔
      disk.Leads (Path.startFrom place target) (Path.steps (Path.split target) ++ rest) goal := by
  constructor
  · intro h
    cases h with
    | above _ => exact absurd rfl hname
    | enter _ hentry' hlink _ =>
      rw [hentry] at hentry'
      exact absurd (Option.some.inj hentry').symm (hlink _)
    | follow _ hentry' h =>
      rw [hentry] at hentry'
      cases hentry'
      exact h
  · exact .follow hname hentry

/-- A name leads only to what is there. -/
theorem get?_ne_none (hname : name ≠ "..") (h : disk.Leads place (name :: rest) goal) :
    disk.get? (name :: place) ≠ none := by
  cases h with
  | above _ => exact absurd rfl hname
  | enter _ hentry _ _ => simp [hentry]
  | follow _ hentry _ => simp [hentry]

/-- Between two parts of the steps there is a place that the one leads to and the other leaves. -/
theorem exists_between {front back : List String} (h : disk.Leads place (front ++ back) goal) :
    ∃ middle, disk.Leads place front middle ∧ disk.Leads middle back goal := by
  -- along the way; where the first part is empty, all of it belongs to the second
  generalize hall : front ++ back = all at h
  induction h generalizing front with
  | arrived place =>
    obtain ⟨rfl, rfl⟩ := List.append_eq_nil_iff.1 hall
    exact ⟨place, .arrived _, .arrived _⟩
  | @above place goal rest h ih =>
    cases front with
    | nil =>
      subst hall
      exact ⟨place, .arrived _, .above h⟩
    | cons step front =>
      obtain ⟨rfl, rfl⟩ := List.cons.inj hall
      obtain ⟨middle, hfront, hback⟩ := ih rfl
      exact ⟨middle, .above hfront, hback⟩
  | @enter place goal name rest entry hname hentry hlink h ih =>
    cases front with
    | nil =>
      subst hall
      exact ⟨place, .arrived _, .enter hname hentry hlink h⟩
    | cons step front =>
      obtain ⟨rfl, rfl⟩ := List.cons.inj hall
      obtain ⟨middle, hfront, hback⟩ := ih rfl
      exact ⟨middle, .enter hname hentry hlink hfront, hback⟩
  | @follow place goal name target rest hname hentry h ih =>
    cases front with
    | nil =>
      subst hall
      exact ⟨place, .arrived _, .follow hname hentry h⟩
    | cons step front =>
      obtain ⟨rfl, rfl⟩ := List.cons.inj hall
      obtain ⟨middle, hfront, hback⟩ := ih (List.append_assoc ..)
      exact ⟨middle, .follow hname hentry hfront, hback⟩

end Leads

/-! ## Where a walk arrives

  A walk may stop before its last name, at a slot.  From there the rest of the way is the name
  itself, and what it leads to depends on what is put into the slot later. -/

/-- From where a walk arrived, the rest leads to the place. -/
def LeadsOn (disk : Disk) : Arrival → Place → Prop
  | .directory there, goal => goal = there
  | .slot parent name _, goal => name ≠ ".." ∧ disk.Leads parent [name] goal

/-- The steps lead to where the arrival leads on to. -/
def ArrivesAt (disk : Disk) (place : Place) (steps : List String) (arrival : Arrival) : Prop :=
  ∀ goal, disk.Leads place steps goal ↔ disk.LeadsOn arrival goal

/-- Every step of a walk goes where it went: directories and links are as they were. -/
structure KeepsSteps (before after : Disk) : Prop where
  home : after.home = before.home
  directory : ∀ place, before.get? place = some .directory → after.get? place = some .directory
  link : ∀ place target,
    before.get? place = some (.link target) → after.get? place = some (.link target)

theorem KeepsSteps.refl (disk : Disk) : KeepsSteps disk disk :=
  ⟨rfl, fun _ h => h, fun _ _ h => h⟩

/-- Steps are kept where only one place changes, at which there is neither a directory nor a
    link. -/
theorem KeepsSteps.of_elsewhere {before after : Disk} (place : Place)
    (hhome : after.home = before.home) (hdirectory : before.get? place ≠ some .directory)
    (hlink : ∀ target, before.get? place ≠ some (.link target))
    (helsewhere : ∀ other, other ≠ place → after.get? other = before.get? other) :
    KeepsSteps before after where
  home := hhome
  directory other hother := by
    rw [helsewhere other, hother]
    rintro rfl
    exact hdirectory hother
  link other target hother := by
    rw [helsewhere other, hother]
    rintro rfl
    exact hlink target hother

section Walking

variable {disk after : Disk} {gait : Gait} {place : Place} {arrival : Arrival}

/-- **Where a walk arrives, its steps lead**, also once there are some directories more. -/
theorem arrivesAt_of_walkPieces (hadds : AddsDirectories disk after)
    {follow : Place → List String → Except Cause Arrival}
    (hfollow : ∀ place pieces arrival, follow place pieces = .ok arrival →
      after.ArrivesAt place (Path.steps pieces) arrival)
    {pieces : List String} (h : walkPieces disk gait follow place pieces = .ok arrival) :
    after.ArrivesAt place (Path.steps pieces) arrival := by
  have hwalked := walked_of_walkPieces h
  clear h
  induction hwalked with
  | arrived place => exact fun goal => Leads.nil_iff
  | idle _ hidle _ ih =>
    rw [Path.steps_cons_of_idle hidle]
    exact ih
  | above _ _ ih =>
    rw [Path.steps_cons (by decide)]
    exact fun goal => Leads.above_iff.trans (ih goal)
  | last _ hname habove hlast _ =>
    -- nothing is left that counts
    rw [Path.steps_cons hname, Path.steps_eq_nil_of_all hlast]
    exact fun goal => (and_iff_right habove).symm
  | link _ hname habove hentry hwalk =>
    intro goal
    have hpieces := hfollow _ _ _ hwalk goal
    rw [Path.steps_append] at hpieces
    rw [Path.steps_cons hname]
    exact (Leads.follow_iff habove (hadds.get?_eq hentry)).trans hpieces
  | enter _ hname habove _ hentry hlink _ ih =>
    rw [Path.steps_cons hname]
    exact fun goal => (Leads.enter_iff habove (hadds.get?_eq hentry) hlink).trans (ih goal)

/-- By induction on the links that are left: behind a link the walk goes on with one link fewer. -/
theorem arrivesAt_of_walk (hadds : AddsDirectories disk after) (links : Nat)
    {pieces : List String} (h : walk disk gait links place pieces = .ok arrival) :
    after.ArrivesAt place (Path.steps pieces) arrival := by
  induction links generalizing place pieces arrival with
  | zero =>
    refine arrivesAt_of_walkPieces hadds ?_ h
    intro place pieces arrival hfollow
    cases hfollow
  | succ links ih => exact arrivesAt_of_walkPieces hadds (fun _ _ _ => ih) h

/-- A path's own steps, from the place where the path starts. -/
theorem arrivesAt_of_arrive (hadds : AddsDirectories disk after) {path : String}
    (h : disk.arrive gait path = .ok arrival) :
    after.ArrivesAt (Path.startFrom disk.home path) (Path.steps (Path.split path)) arrival :=
  arrivesAt_of_walk hadds linkLimit (arrive_eq_ok h)

/-- A walk that goes on stands in a directory. -/
theorem Walked.get?_eq_directory {follow : Place → List String → Except Cause Arrival}
    {pieces : List String} (hpieces : pieces ≠ [])
    (h : Walked disk gait follow place pieces arrival) : disk.get? place = some .directory := by
  cases h with
  | arrived => exact absurd rfl hpieces
  | idle hplace => exact hplace
  | above hplace => exact hplace
  | last hplace => exact hplace
  | link hplace => exact hplace
  | enter hplace => exact hplace

/-- **A walk arrives again**, with all links followed, on a disk that keeps its steps, unless
    there is a link where it arrives. -/
theorem walkPieces_following (hkeeps : KeepsSteps disk after) (hsettled : after.Settled arrival)
    {follow follow' : Place → List String → Except Cause Arrival}
    (hfollow : ∀ place pieces, follow place pieces = .ok arrival →
      follow' place pieces = .ok arrival)
    {pieces : List String} (h : walkPieces disk gait follow place pieces = .ok arrival) :
    walkPieces after following follow' place pieces = .ok arrival := by
  have hwalked := walked_of_walkPieces h
  clear h
  induction hwalked with
  | arrived place => rfl
  | idle hplace hidle _ ih =>
    rw [walkPieces, if_neg (by simp [hkeeps.directory _ hplace]), if_pos hidle]
    exact ih hsettled hfollow
  | above hplace _ ih =>
    rw [walkPieces, if_neg (by simp [hkeeps.directory _ hplace]), if_neg (by decide), if_pos rfl]
    exact ih hsettled hfollow
  | @last place name rest hplace hname habove hlast _ =>
    have hlink : ∀ target, after.get? (name :: place) ≠ some (.link target) := hsettled
    rw [walkPieces, if_neg (by simp [hkeeps.directory _ hplace]), if_neg hname, if_neg habove]
    simp only [following, anywhere, Bool.and_false, Bool.false_eq_true, if_false, Bool.not_true]
    exact if_pos hlast
  | link hplace hname habove hentry hwalk =>
    rw [walkPieces, if_neg (by simp [hkeeps.directory _ hplace]), if_neg hname, if_neg habove]
    simp only [following, anywhere, Bool.and_false, Bool.false_eq_true, if_false, Bool.not_true,
      hkeeps.link _ _ hentry]
    exact hfollow _ _ hwalk
  | enter _ _ _ hlast _ _ hrest ih =>
    -- what the walk enters is a directory, for there is more to walk
    rw [Bool.not_eq_true, List.all_eq_false] at hlast
    obtain ⟨piece, hmem, hpiece⟩ := hlast
    have hdirectory := hkeeps.directory _ (hrest.get?_eq_directory (List.ne_nil_of_mem hmem))
    refine (walkPieces_step ⟨piece, hmem, by simpa using hpiece⟩ ?_ ?_).trans (ih hsettled hfollow)
    · simp [hdirectory]
    · simp [hdirectory]

/-- With links to follow, by induction on their number. -/
theorem walk_following (hkeeps : KeepsSteps disk after) (hsettled : after.Settled arrival)
    (links : Nat) {pieces : List String} (h : walk disk gait links place pieces = .ok arrival) :
    walk after following links place pieces = .ok arrival := by
  induction links generalizing place pieces with
  | zero =>
    refine walkPieces_following hkeeps hsettled ?_ h
    intro place pieces hfollow
    cases hfollow
  | succ links ih => exact walkPieces_following hkeeps hsettled (fun _ _ => ih) h

/-- A path arrives again where it arrived, on every disk that keeps its steps. -/
theorem arrive_following (hkeeps : KeepsSteps disk after) (hsettled : after.Settled arrival)
    {path : String} (h : disk.arrive gait path = .ok arrival) :
    after.arrive following path = .ok arrival :=
  arrive_congr hkeeps.home (fun _ _ => walk_following hkeeps hsettled linkLimit) h

/-- What resolves exists. -/
theorem pathExists_of_resolve {path : String} (h : disk.resolve path = .ok place) :
    disk.pathExists path = true := by
  obtain ⟨entry, hfind⟩ := resolve_eq_ok h
  obtain ⟨arrival, harrive, -⟩ := findAt_eq_ok hfind
  have hfollowing := arrive_following (KeepsSteps.refl disk)
    (settled_of_arrive (fun _ => rfl) harrive) harrive
  have hsame : disk.find path = disk.findAt resolving path := by
    rw [find, findAt, findAt, hfollowing, harrive]
  rw [pathExists, hsame, hfind]
  rfl

end Walking

variable {disk : Disk} {path : String} {place : Place}

/-- A path leads to where something is found at its end, and nowhere else. -/
theorem leadsTo_iff_of_findAt {gait : Gait} (hgait : ∀ slashed, gait.handOver slashed = false)
    {entry : Entry} (h : disk.findAt gait path = .ok (place, entry)) {goal : Place} :
    disk.LeadsTo path goal ↔ goal = place := by
  obtain ⟨hentry, hlink⟩ := get?_of_findAt hgait h
  obtain ⟨arrival, harrive, hfound⟩ := findAt_eq_ok h
  have hpath := arrivesAt_of_arrive (AddsDirectories.refl disk) harrive goal
  rcases hfound with ⟨rfl, -⟩ | ⟨parent, name, slashed, rfl, rfl, -⟩
  · exact hpath
  · have hthere : disk.get? (name :: parent) ≠ none := by simp [hentry]
    have hname : name ≠ ".." := (isName_of_get? hthere).ne_above
    exact hpath.trans ((and_iff_right hname).trans
      ((Leads.enter_iff hname hentry hlink).trans Leads.nil_iff))

/-! ## Where there is nothing yet -/

/-- Wherever the path leads there is a directory with nothing in it. -/
def Bare (disk : Disk) (path : String) : Prop :=
  ∀ goal, disk.LeadsTo path goal →
    disk.get? goal = some .directory ∧ ∀ name, disk.get? (name :: goal) = none

/-- Adding an entry does not move the directory that relative paths start from. -/
theorem home_add (disk : Disk) (parent : Place) (name : String) (entry : Entry) :
    (disk.add parent name entry).home = disk.home := by
  rw [add]
  split <;> rfl

/-- **A directory that was just made has nothing in it.** -/
theorem bare_of_makeDirectory {made : Disk} (h : disk.makeDirectory path = .ok made) :
    made.Bare path := by
  have hadds := makeDirectory_adds h
  obtain ⟨parent, name, slashed, harrive, hvacant, rfl⟩ := makeDirectory_eq_ok h
  intro goal hgoal
  rw [LeadsTo, home_add] at hgoal
  -- the path leads to the slot's entry only, and that is the new directory
  obtain ⟨hname, hslot⟩ := (arrivesAt_of_arrive hadds harrive goal).1 hgoal
  have hmade := hvacant.get?_add .directory (name :: parent)
  rw [if_pos rfl] at hmade
  rw [Leads.enter_iff hname hmade (by simp), Leads.nil_iff] at hslot
  subst hslot
  refine ⟨hmade, ?_⟩
  intro inner
  rw [hvacant.get?_add, if_neg (List.cons_ne_self _ _).symm]
  -- something in it would have needed the directory before
  refine Classical.byContradiction fun hinner => ?_
  cases (get?_tail hinner).symm.trans hvacant.free

/-! ## Directories that were missing -/

/-- Where the first components of a path lead to nothing yet, so do all. -/
theorem Bare.of_append_singleton {upper path : String} {components : List Path.Component}
    {last : Path.Component} (h : disk.Bare upper) (hupper : Path.Spells upper components)
    (hpath : Path.Spells path (components ++ [last])) (hroot : last ≠ .root)
    (habove : last ≠ .above) (hname : last ≠ .name "..") : disk.Bare path := by
  have habsolute : Path.isAbsolute path = true ↔ Path.isAbsolute upper = true := by
    rw [hpath.absolute_iff, hupper.absolute_iff, List.mem_append, List.mem_singleton]
    exact or_iff_left fun heq => hroot heq.symm
  have hstart : Path.startFrom disk.home path = Path.startFrom disk.home upper := by
    rw [Path.startFrom, Path.startFrom, Bool.eq_iff_iff.2 habsolute]
  intro goal hgoal
  rw [LeadsTo, hstart, hpath.steps_eq, List.filterMap_append, ← hupper.steps_eq] at hgoal
  obtain ⟨middle, hmiddle, hlast⟩ := hgoal.exists_between
  have hempty := h middle hmiddle
  cases last with
  | root => exact absurd rfl hroot
  | above => exact absurd rfl habove
  | here =>
    have hgoal : goal = middle := Leads.nil_iff.1 hlast
    rw [hgoal]
    exact hempty
  | name text =>
    -- there is no such name where there is nothing
    have htext : text ≠ ".." := fun heq => hname (congrArg Path.Component.name heq)
    exact absurd (hempty.2 text) (hlast.get?_ne_none htext)

/-- Along the components, from the whole path outwards: if anything was made, the path ends at a
    directory that was made, for what was made further up has nothing in it. -/
theorem bare_of_makeDirectoriesAlong {components : List Path.Component}
    (hwell : Path.WellFormed components.reverse) (habove : .above ∉ components)
    (hpath : Path.Spells path components.reverse) {grown : Disk}
    (h : disk.makeDirectoriesAlong path components = (.ok (), grown)) :
    grown = disk ∨ grown.Bare path := by
  -- outwards along the components: those above are made before the second attempt
  induction components generalizing path grown with
  | nil =>
    cases h
    exact Or.inl rfl
  | cons component above ih =>
    obtain ⟨hcomponent, habove'⟩ := not_or.1 (mt List.mem_cons.2 habove)
    have hname := hwell.name_above_not_mem
    rw [List.reverse_cons] at hwell hpath hname
    have hupper := hwell.of_append_singleton.spells
    rw [makeDirectoriesAlong] at h
    split at h
    · rename_i made hmade
      cases h
      exact Or.inr (bare_of_makeDirectory hmade)
    · by_cases hroot : component = .root
      · rw [if_pos hroot] at h
        cases h
      · rw [if_neg hroot] at h
        split at h
        · cases h
        · rename_i middle hmiddle
          split at h
          · rename_i made hmade
            cases h
            exact Or.inr (bare_of_makeDirectory hmade)
          · have hgrown : middle = grown := (Prod.mk.inj h).2
            subst hgrown
            refine (ih hwell.of_append_singleton habove' hupper hmiddle).imp_right fun hbare => ?_
            refine hbare.of_append_singleton hupper hpath hroot (fun heq => hcomponent heq.symm) ?_
            rintro rfl
            exact hname (by simp)
    · exact Or.inl (Prod.mk.inj h).2.symm

/-- **Missing directories.**  If a path has no step to the directory above, its directories were all
    there, or there is nothing yet in the directory that it leads to now. -/
theorem bare_of_makeDirectories {grown : Disk} (habove : ".." ∉ Path.split path)
    (h : disk.makeDirectories path = (.ok (), grown)) : grown = disk ∨ grown.Bare path := by
  refine bare_of_makeDirectoriesAlong ?_ ?_ ?_ h
  · rw [List.reverse_reverse]
    exact Path.wellFormed_components path
  · rw [List.mem_reverse]
    exact Path.above_not_mem_components habove
  · rw [List.reverse_reverse]
    exact Path.spells_components path

end Disk

end Thicket
