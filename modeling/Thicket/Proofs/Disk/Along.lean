/-
  Where directories are made along a path.

  Making the directories of a path makes none beside it: each new one is where a first part of the
  path leads (`along_of_makeDirectories`), whatever steps to the directory above and links there
  are on the way, and also if the making ends in a failure.

  1. **Ways that stay** — a part of a path leads where it did as long as no entry is taken away
     and no link is changed (`Leads.mono`), so this goes on to hold when other things are made
     later.
  2. **One directory** — the directory that `makeDirectory` makes is where its path leads afterwards
     (`leadsTo_of_makeDirectory`): the walk arrived at its slot, and the slot now has an entry.
  3. **All of them** — by induction along the components, outwards.  A directory that was made
     further up is along a shorter part of the path; it is still there after the second attempt,
     and its part still leads to it by the first step.
-/
import Thicket.Proofs.Disk.Route

namespace Thicket

namespace Disk

/-! ## Ways that stay

  Files may be made and rewritten, and directories added.  What must not happen is that an entry
  goes away or that a link begins to point elsewhere. -/

/-- Whatever was there is there, and the links are the same. -/
def KeepsWays (before after : Disk) : Prop :=
  ∀ place entry, before.get? place = some entry → ∃ entry', after.get? place = some entry' ∧
    ∀ target, entry' = .link target ↔ entry = .link target

/-- Directories more leave all ways as they were. -/
theorem AddsDirectories.keepsWays {before after : Disk} (h : AddsDirectories before after) :
    KeepsWays before after :=
  fun _ entry hentry => ⟨entry, h.get?_eq hentry, fun _ => Iff.rfl⟩

/-- **Steps lead where they did.** -/
theorem Leads.mono {before after : Disk} (hkeeps : KeepsWays before after) {place goal : Place}
    {steps : List String} (h : before.Leads place steps goal) : after.Leads place steps goal := by
  induction h with
  | arrived place => exact .arrived place
  | above _ ih => exact .above ih
  | enter hname hentry hlink _ ih =>
    obtain ⟨entry', hentry', hsame⟩ := hkeeps _ _ hentry
    exact .enter hname hentry' (fun target heq => hlink target ((hsame target).1 heq)) ih
  | @follow _ _ _ target _ hname hentry _ ih =>
    obtain ⟨entry', hentry', hsame⟩ := hkeeps _ _ hentry
    obtain rfl : entry' = .link target := (hsame target).2 rfl
    exact .follow hname hentry' ih

/-- A first part of the path leads to the place, from where the path starts. -/
def Along (disk : Disk) (home : Place) (path : String) (place : Place) : Prop :=
  ∃ front, front <+: Path.components path ∧
    disk.Leads (Path.startFrom home path) (front.filterMap Path.Component.step?) place

theorem Along.mono {before after : Disk} (hkeeps : KeepsWays before after) {home place : Place}
    {path : String} (h : before.Along home path place) : after.Along home path place := by
  obtain ⟨front, hfirst, hleads⟩ := h
  exact ⟨front, hfirst, hleads.mono hkeeps⟩

/-! ## Where directories are made -/

variable {disk made : Disk} {path : String} {place : Place}

/-- Making a directory does not move the directory that relative paths start from. -/
theorem home_of_makeDirectory (h : disk.makeDirectory path = .ok made) : made.home = disk.home := by
  obtain ⟨parent, name, -, -, -, rfl⟩ := makeDirectory_eq_ok h
  exact home_add disk parent name .directory

/-- A directory is made where its path leads. -/
theorem leadsTo_of_makeDirectory (h : disk.makeDirectory path = .ok made)
    (hfree : disk.get? place = none) (hnew : made.get? place ≠ none) : made.LeadsTo path place := by
  have hadds := makeDirectory_adds h
  have hmade : made.get? place = some .directory := by
    rcases hadds place with hsame | ⟨-, hmade⟩
    · exact absurd (hsame.trans hfree) hnew
    · exact hmade
  have hhome := home_of_makeDirectory h
  -- the only new place is the slot, so it is the place in question
  obtain ⟨parent, name, slashed, harrive, hvacant, rfl⟩ := makeDirectory_eq_ok h
  have hplace : place = name :: parent := by
    refine Classical.byContradiction fun hne => ?_
    rw [hvacant.get?_add, if_neg (Ne.symm hne)] at hnew
    exact hnew hfree
  subst hplace
  have hname : name ≠ ".." := hvacant.isName.ne_above
  rw [LeadsTo, hhome]
  refine (arrivesAt_of_arrive hadds harrive _).2 ⟨hname, ?_⟩
  exact .enter hname hmade (by simp) (.arrived _)

/-- Nor does making all directories of a path, however it ends. -/
theorem home_of_makeDirectoriesAlong (disk : Disk) (path : String)
    (components : List Path.Component) :
    (disk.makeDirectoriesAlong path components).2.home = disk.home := by
  induction components generalizing path with
  | nil => rfl
  | cons component above ih =>
    rw [makeDirectoriesAlong]
    split
    · rename_i made hmade
      exact home_of_makeDirectory hmade
    · split
      · rfl
      · have hgrown := ih (Path.ofComponents above.reverse)
        split
        · rename_i cause grown hresult
          rw [hresult] at hgrown
          exact hgrown
        · rename_i grown hresult
          rw [hresult] at hgrown
          split
          · rename_i made hmade
            exact (home_of_makeDirectory hmade).trans hgrown
          · exact hgrown
    · rfl

/-- Every directory that the attempts along the components have made is where a first part of
    the whole path leads.  The path of an attempt is spelled by the components that are left to
    it, and starts where the whole path does. -/
theorem along_of_makeDirectoriesAlong {root : String} {components : List Path.Component}
    (hwell : Path.WellFormed components.reverse)
    (hfirst : components.reverse <+: Path.components root)
    (hpath : Path.Spells path components.reverse)
    (hstart : Path.startFrom disk.home path = Path.startFrom disk.home root)
    (hfree : disk.get? place = none)
    (hnew : (disk.makeDirectoriesAlong path components).2.get? place ≠ none) :
    (disk.makeDirectoriesAlong path components).2.Along disk.home root place := by
  induction components generalizing path with
  | nil => exact absurd hfree hnew
  | cons component above ih =>
    -- the directory that the whole path names is where the path leads
    have hlast : ∀ {before made : Disk}, before.home = disk.home →
        before.makeDirectory path = .ok made → before.get? place = none →
        made.get? place ≠ none → made.Along disk.home root place := by
      intro before made hhome hmade hbefore hafter
      have hleads := leadsTo_of_makeDirectory hmade hbefore hafter
      rw [LeadsTo, home_of_makeDirectory hmade, hhome, hstart, hpath.steps_eq] at hleads
      exact ⟨_, hfirst, hleads⟩
    rw [List.reverse_cons] at hwell hfirst hpath
    have hupper := hwell.of_append_singleton.spells
    rw [makeDirectoriesAlong] at hnew ⊢
    split at hnew
    · rename_i made hmade
      exact hlast rfl hmade hfree hnew
    · by_cases hroot : component = .root
      · rw [if_pos hroot] at hnew
        exact absurd hfree hnew
      · rw [if_neg hroot] at hnew ⊢
        -- the directories above are reached from the same start
        have hsame : Path.startFrom disk.home (Path.ofComponents above.reverse) =
            Path.startFrom disk.home root := by
          have habsolute : Path.isAbsolute (Path.ofComponents above.reverse) = true ↔
              Path.isAbsolute path = true := by
            rw [hpath.absolute_iff, hupper.absolute_iff, List.mem_append, List.mem_singleton]
            exact (or_iff_left fun heq => hroot heq.symm).symm
          rw [← hstart, Path.startFrom, Path.startFrom, Bool.eq_iff_iff.2 habsolute]
        have hgrown := ih hwell.of_append_singleton ((List.prefix_append _ _).trans hfirst)
          hupper hsame
        have hhome := home_of_makeDirectoriesAlong disk (Path.ofComponents above.reverse) above
        split at hnew
        · rename_i cause grown hresult
          rw [hresult] at hgrown
          exact hgrown hnew
        · rename_i grown hresult
          rw [hresult] at hgrown hhome
          split at hnew
          · rename_i made hmade
            by_cases habove : grown.get? place = none
            · exact hlast hhome hmade habove hnew
            · exact (hgrown habove).mono (makeDirectory_adds hmade).keepsWays
          · exact hgrown hnew
    · exact absurd hfree hnew

/-- **Directories are made along the path**, and nothing is made elsewhere. -/
theorem along_of_makeDirectories (hfree : disk.get? place = none)
    (hnew : (disk.makeDirectories path).2.get? place ≠ none) :
    (disk.makeDirectories path).2.Along disk.home path place := by
  have hsteps : (Path.components path).reverse.reverse = Path.components path :=
    List.reverse_reverse _
  refine along_of_makeDirectoriesAlong ?_ ?_ ?_ rfl hfree hnew
  · rw [hsteps]
    exact Path.wellFormed_components path
  · exact ⟨[], by rw [List.append_nil, hsteps]⟩
  · rw [hsteps]
    exact Path.spells_components path

end Disk

end Thicket
