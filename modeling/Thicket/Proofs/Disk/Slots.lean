/-
  Where walks end at a name.

  1. **What can be there** — wherever a walk ends at a slot, its directory is there and its name is
     one to step by (`standsAt_of_arrive`), so an entry can be added if there is none
     (`vacant_of_arrive`).
  2. **The same slot** — a walk that stops at slashes and one that follows every link go the same
     way until a link with slashes behind it.  Slashes behind a name stay behind whatever the name
     is replaced by (`slashed_of_walk`), so where the second walk ends at a name without them, so
     does the first (`arrive_stoppingAtSlash`).

  Both are shown by induction on what the walk has done, and on the number of links around it.
-/
import Thicket.Proofs.Disk.AtPlace
import Thicket.Proofs.Disk.PlainName

namespace Thicket

namespace Path

/-- The last piece, if there is one, is what stands behind a slash at the end. -/
def EndsInSlash (pieces : List String) : Prop :=
  ∀ piece, pieces.getLast? = some piece → piece = ""

namespace EndsInSlash

variable {piece : String} {rest : List String}

/-- What is left of the pieces ends in a slash if they do. -/
theorem tail (h : EndsInSlash (piece :: rest)) : EndsInSlash rest := by
  intro last hlast
  refine h last ?_
  rw [List.getLast?_cons, hlast]
  rfl

/-- A name at the end is not followed by a slash. -/
theorem tail_ne_nil (h : EndsInSlash (piece :: rest)) (hpiece : piece ≠ "") : rest ≠ [] := by
  rintro rfl
  exact hpiece (h piece rfl)

theorem append_left (h : EndsInSlash rest) (hrest : rest ≠ []) (front : List String) :
    EndsInSlash (front ++ rest) := by
  intro last hlast
  rw [List.getLast?_append, List.getLast?_eq_some_getLast hrest, Option.some_or,
    ← List.getLast?_eq_some_getLast hrest] at hlast
  exact h last hlast

theorem of_all (h : (rest.all fun piece => decide (piece = "")) = true) : EndsInSlash rest := by
  intro last hlast
  exact of_decide_eq_true (List.all_eq_true.1 h last (List.mem_of_getLast? hlast))

end EndsInSlash

end Path

namespace Disk

variable {disk : Disk} {gait : Gait} {place : Place} {pieces : List String} {arrival : Arrival}
  {follow : Place → List String → Except Cause Arrival}

/-! ## What can be in a slot

  A walk ends at a slot only from within a directory and with a piece that is neither empty nor
  one of the two that stand for directories.  As pieces have no slashes, only a NUL can keep
  such a piece from being a name; that and its length are tested when the slot is looked up. -/

/-- A slot is in a directory, and its name is one to step by, unless there is a NUL in it. -/
def StandsAt (disk : Disk) : Arrival → Prop
  | .directory _ => True
  | .slot parent name _ =>
    disk.get? parent = some .directory ∧ ('\x00' ∉ name.toList → Path.IsStep name)

/-- By induction on what the walk has done; the pieces of a link that is followed have no
    slashes either. -/
theorem standsAt_of_walkPieces (hpieces : ∀ piece ∈ pieces, '/' ∉ piece.toList)
    (hfollow : ∀ place pieces arrival, (∀ piece ∈ pieces, '/' ∉ piece.toList) →
      follow place pieces = .ok arrival → disk.StandsAt arrival)
    (h : walkPieces disk gait follow place pieces = .ok arrival) : disk.StandsAt arrival := by
  have hwalked := walked_of_walkPieces h
  clear h
  induction hwalked with
  | arrived _ => trivial
  | idle _ _ _ ih => exact ih (List.forall_mem_cons.1 hpieces).2
  | above _ _ ih => exact ih (List.forall_mem_cons.1 hpieces).2
  | last hplace hname habove _ _ =>
    obtain ⟨hslash, -⟩ := List.forall_mem_cons.1 hpieces
    obtain ⟨hempty, hhere⟩ := not_or.1 hname
    exact ⟨hplace, fun hnul => ⟨hempty, hhere, habove, hslash, hnul⟩⟩
  | link _ _ _ _ hwalk =>
    refine hfollow _ _ _ ?_ hwalk
    intro piece hpiece
    rcases List.mem_append.1 hpiece with htarget | hrest
    · exact Path.no_slash_of_mem_split htarget
    · exact (List.forall_mem_cons.1 hpieces).2 piece hrest
  | enter _ _ _ _ _ _ _ ih => exact ih (List.forall_mem_cons.1 hpieces).2

/-- With any number of links left to follow. -/
theorem standsAt_of_walk (links : Nat) (hpieces : ∀ piece ∈ pieces, '/' ∉ piece.toList)
    (h : walk disk gait links place pieces = .ok arrival) : disk.StandsAt arrival := by
  induction links generalizing place pieces arrival with
  | zero =>
    refine standsAt_of_walkPieces hpieces ?_ h
    intro place pieces arrival _ hfollow
    cases hfollow
  | succ links ih =>
    refine standsAt_of_walkPieces hpieces ?_ h
    intro place pieces arrival hpieces hfollow
    exact ih hpieces hfollow

/-- **Where a path ends at a slot there can be an entry.** -/
theorem standsAt_of_arrive {path : String} (h : disk.arrive gait path = .ok arrival) :
    disk.StandsAt arrival :=
  standsAt_of_walk linkLimit (fun _ => Path.no_slash_of_mem_split) (arrive_eq_ok h)

/-- There can be an entry of the name in the directory at the place, and there is none yet. -/
structure Vacant (disk : Disk) (parent : Place) (name : String) : Prop where
  parent_directory : disk.get? parent = some .directory
  isName : Path.IsName name
  free : disk.get? (name :: parent) = none

/-- **A slot in which nothing is found is vacant.** -/
theorem vacant_of_arrive {path name : String} {parent : Place} {slashed : Bool}
    (harrive : disk.arrive gait path = .ok (.slot parent name slashed))
    (hlook : disk.lookUp parent name = .ok none) : disk.Vacant parent name := by
  obtain ⟨hparent, hstep⟩ := standsAt_of_arrive harrive
  obtain ⟨hnul, hfits, hfree⟩ := lookUp_eq_ok hlook
  exact ⟨hparent, ⟨hstep hnul, hfits⟩, hfree⟩

/-- What is added in a vacant slot is there, and nothing else changes. -/
theorem Vacant.get?_add {parent : Place} {name : String} (h : disk.Vacant parent name)
    (entry : Entry) (other : Place) : (disk.add parent name entry).get? other =
      if name :: parent = other then some entry else disk.get? other :=
  Disk.get?_add h.parent_directory h.free h.isName other

/-! ## Slashes at the end

  A slash behind a name asks for a directory.  Where the name is a link, its target takes the
  place of the name and the slash stays behind it, so a walk that meets a slash at the end has
  one at its end. -/

/-- If the arrival is a slot, slashes follow its name. -/
def Slashed : Arrival → Prop
  | .directory _ => True
  | .slot _ _ slashed => slashed = true

/-- Slashes behind the last name are still there where a walk ends. -/
theorem slashed_of_walkPieces (hpieces : Path.EndsInSlash pieces)
    (hfollow : ∀ place pieces arrival, Path.EndsInSlash pieces →
      follow place pieces = .ok arrival → Slashed arrival)
    (h : walkPieces disk gait follow place pieces = .ok arrival) : Slashed arrival := by
  have hwalked := walked_of_walkPieces h
  clear h
  induction hwalked with
  | arrived _ => trivial
  | idle _ _ _ ih => exact ih hpieces.tail
  | above _ _ ih => exact ih hpieces.tail
  | @last _ name rest _ hname _ _ _ =>
    have hrest : rest ≠ [] := hpieces.tail_ne_nil (not_or.1 hname).1
    simpa [Slashed] using hrest
  | link _ hname _ _ hwalk =>
    have hrest := hpieces.tail_ne_nil (not_or.1 hname).1
    exact hfollow _ _ _ (hpieces.tail.append_left hrest _) hwalk
  | enter _ _ _ _ _ _ _ ih => exact ih hpieces.tail

theorem slashed_of_walk (links : Nat) (hpieces : Path.EndsInSlash pieces)
    (h : walk disk gait links place pieces = .ok arrival) : Slashed arrival := by
  induction links generalizing place pieces arrival with
  | zero =>
    refine slashed_of_walkPieces hpieces ?_ h
    intro place pieces arrival _ hfollow
    cases hfollow
  | succ links ih =>
    refine slashed_of_walkPieces hpieces ?_ h
    intro place pieces arrival hpieces hfollow
    exact ih hpieces hfollow

/-! ## Stopping at slashes

  Opening for writing refuses a link with slashes behind it and follows all others, while
  looking a path up follows every link.  Where the second walk ends without slashes no link with
  slashes was on the way, so the first one goes the same way. -/

/-- Before a name without slashes a walk that stops at slashes has nowhere stopped. -/
theorem walkPieces_stoppingAtSlash {follow' : Place → List String → Except Cause Arrival}
    (harrival : ¬ Slashed arrival)
    (hslashed : ∀ place pieces, Path.EndsInSlash pieces → follow place pieces = .ok arrival →
      Slashed arrival)
    (hfollow : ∀ place pieces, follow place pieces = .ok arrival →
      follow' place pieces = .ok arrival)
    (h : walkPieces disk following follow place pieces = .ok arrival) :
    walkPieces disk stoppingAtSlash follow' place pieces = .ok arrival := by
  have hwalked := walked_of_walkPieces h
  clear h
  induction hwalked with
  | arrived _ => exact absurd trivial harrival
  | idle hplace hidle _ ih =>
    rw [walkPieces, if_neg (by simp [hplace]), if_pos hidle]
    exact ih harrival hslashed hfollow
  | above hplace _ ih =>
    rw [walkPieces, if_neg (by simp [hplace]), if_neg (by decide), if_pos rfl]
    exact ih harrival hslashed hfollow
  | @last place name rest hplace hname habove hlast hstop =>
    -- nothing follows the name, and there is no link
    have hrest : rest = [] := by simpa [Slashed] using harrival
    subst hrest
    have hlink : ∀ target, disk.get? (name :: place) ≠ some (.link target) :=
      hstop.resolve_left Bool.false_ne_true
    rw [walkPieces, if_neg (by simp [hplace]), if_neg hname, if_neg habove]
    simp [stoppingAtSlash, anywhere, Path.asksForDirectory]
  | @link place name target rest arrival hplace hname habove hentry hwalk =>
    -- slashes behind the link would be found behind the arrival
    have hstop : (rest.all (fun piece => decide (piece = "")) && !rest.isEmpty) = false := by
      rw [Bool.eq_false_iff]
      intro hslashes
      obtain ⟨hall, hrest⟩ := Bool.and_eq_true_iff.1 hslashes
      have hne : rest ≠ [] := by simpa using hrest
      exact harrival (hslashed _ _ ((Path.EndsInSlash.of_all hall).append_left hne _) hwalk)
    rw [walkPieces, if_neg (by simp [hplace]), if_neg hname, if_neg habove]
    simp only [stoppingAtSlash, anywhere, hstop, Bool.false_eq_true, if_false, Bool.not_true,
      hentry]
    exact hfollow _ _ hwalk
  | enter _ _ _ hlast hentry hlink _ ih =>
    rw [Bool.not_eq_true, List.all_eq_false] at hlast
    obtain ⟨piece, hmem, hpiece⟩ := hlast
    refine (walkPieces_step ⟨piece, hmem, by simpa using hpiece⟩ ?_ ?_).trans
      (ih harrival hslashed hfollow)
    · simp [hentry]
    · simpa [hentry] using hlink

/-- By induction on the links that are left: the walk behind a link is compared in the same way. -/
theorem walk_stoppingAtSlash (links : Nat) (harrival : ¬ Slashed arrival)
    (h : walk disk following links place pieces = .ok arrival) :
    walk disk stoppingAtSlash links place pieces = .ok arrival := by
  induction links generalizing place pieces with
  | zero =>
    refine walkPieces_stoppingAtSlash harrival ?_ ?_ h
    · intro place pieces _ hfollow
      cases hfollow
    · intro place pieces hfollow
      cases hfollow
  | succ links ih =>
    refine walkPieces_stoppingAtSlash harrival ?_ (fun _ _ => ih) h
    intro place pieces hpieces hfollow
    exact slashed_of_walk links hpieces hfollow

/-- **A name without slashes that a path leads to** is also where a walk ends that stops at
    slashes. -/
theorem arrive_stoppingAtSlash {path name : String} {parent : Place}
    (h : disk.arrive following path = .ok (.slot parent name false)) :
    disk.arrive stoppingAtSlash path = .ok (.slot parent name false) :=
  arrive_congr rfl (fun _ _ => walk_stoppingAtSlash linkLimit Bool.false_ne_true) h

end Disk

end Thicket
