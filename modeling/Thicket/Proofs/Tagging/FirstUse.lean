/-
  The pool keeps tags in the order of their first use.

  A pool has its tags twice: in a list, from which one is chosen by its position, and in a set,
  which tells whether a tag is in use.  One step changes both, so what it preserves holds after
  any number of steps, however often each tag comes:

  1. **In step** — the set holds what the list holds, and the list holds nothing twice (`InStep`).
  2. **Growth** — a tag goes to the end of the list, so those before it keep their positions
     (`prefix_insertAll`).
  3. **First use** — the list is what was put to use, each tag at its first occurrence only
     (`toList_insertAll_empty`).

  All that is known of a pool that began empty is in `insertAll_keeps_first_uses`.
-/
import Thicket.Pool
import Mathlib.Data.Finset.Card
import Mathlib.Data.List.Induction

namespace Thicket

namespace Pool

/-- The pool after tags were put to use one after the other. -/
def insertAll (pool : Pool) (tags : List String) : Pool :=
  tags.foldl (fun pool tag => (pool.insert tag).2) pool

theorem insertAll_append (pool : Pool) (tags more : List String) :
    pool.insertAll (tags ++ more) = (pool.insertAll tags).insertAll more :=
  List.foldl_append ..

/-- The answer is whether the tag is new. -/
theorem fst_insert (pool : Pool) (tag : String) :
    (pool.insert tag).1 = true ↔ ¬ pool.contains tag = true := by
  rw [Pool.insert]
  split
  · rename_i hused
    exact iff_of_false Bool.false_ne_true (not_not_intro hused)
  · rename_i hnew
    exact iff_of_true rfl hnew

/-! ## In step

  The set is asked whether a tag is there before the list gets it, so the list never gets it
  twice. -/

/-- The list and the set of a pool hold the same tags, and the list holds none twice. -/
structure InStep (pool : Pool) : Prop where
  contains_iff : ∀ tag, pool.contains tag = true ↔ tag ∈ pool.toList
  nodup : pool.toList.Nodup

theorem inStep_empty : empty.InStep where
  contains_iff tag := by simp [empty, contains, toList]
  nodup := List.nodup_nil

/-- Putting a tag to use keeps list and set in step. -/
theorem InStep.insert {pool : Pool} (h : pool.InStep) (tag : String) :
    (pool.insert tag).2.InStep := by
  have hlist := pool.toList_insert tag
  by_cases hused : pool.contains tag = true
  · -- the tag is in use, and nothing changes
    rw [Pool.insert, if_pos hused]
    exact h
  · rw [if_neg hused] at hlist
    constructor
    · intro other
      rw [Pool.contains_insert, h.contains_iff, hlist, List.mem_append, List.mem_singleton, or_comm]
    · rw [hlist, List.nodup_append]
      refine ⟨h.nodup, List.nodup_singleton tag, ?_⟩
      rintro other hother _ hmem rfl
      rw [List.mem_singleton.1 hmem, ← h.contains_iff] at hother
      exact hused hother

/-- By the tags that are put to use, one step after the other. -/
theorem InStep.insertAll {pool : Pool} (h : pool.InStep) (tags : List String) :
    (pool.insertAll tags).InStep := by
  induction tags generalizing pool with
  | nil => exact h
  | cons tag tags ih => exact ih (h.insert tag)

/-! ## Growth

  Tags are chosen by position, so it matters that a tag keeps its position for good. -/

/-- A tag changes nothing before the end of the list. -/
theorem prefix_insert (pool : Pool) (tag : String) :
    pool.toList <+: (pool.insert tag).2.toList := by
  rw [Pool.toList_insert]
  split
  · exact List.prefix_rfl
  · exact List.prefix_append ..

/-- **Tags keep their positions** while more of them are put to use. -/
theorem prefix_insertAll (pool : Pool) (tags : List String) :
    pool.toList <+: (pool.insertAll tags).toList := by
  induction tags generalizing pool with
  | nil => exact List.prefix_rfl
  | cons tag tags ih => exact (pool.prefix_insert tag).trans (ih (pool.insert tag).2)

/-! ## First use

  From the last insertion: it adds its tag to the list of all earlier ones, or finds it there. -/

/-- **The list of a pool that began empty** is what was put to use, without the repetitions. -/
theorem toList_insertAll_empty (tags : List String) :
    (empty.insertAll tags).toList = tags.eraseDups := by
  -- along the steps, the last one last: what it adds depends on all before it
  induction tags using List.reverseRecOn with
  | nil => rfl
  | append_singleton tags tag ih =>
    have hused : (empty.insertAll tags).contains tag = true ↔ tag ∈ tags := by
      rw [(inStep_empty.insertAll tags).contains_iff, ih, List.mem_eraseDups]
    have hstep : empty.insertAll (tags ++ [tag]) = ((empty.insertAll tags).insert tag).2 :=
      insertAll_append ..
    rw [hstep, Pool.toList_insert, ih, List.eraseDups_append]
    by_cases hmem : tag ∈ tags
    · rw [if_pos (hused.2 hmem)]
      simp [List.removeAll, hmem]
    · rw [if_neg fun hcontains => hmem (hused.1 hcontains)]
      simp [List.removeAll, hmem, List.eraseDups_cons]

/-- A tag is in use if it was put to use. -/
theorem contains_insertAll_empty (tags : List String) (tag : String) :
    (empty.insertAll tags).contains tag = true ↔ tag ∈ tags := by
  rw [(inStep_empty.insertAll tags).contains_iff, toList_insertAll_empty, List.mem_eraseDups]

/-- **What a pool that began empty knows of the tags that were put to use.**  Its list has each of
    them at its first occurrence only, and its set has what the list has.  It counts the different
    ones.  The answer to the next tag is whether it is new.  And whatever comes after, the list
    only grows at its end. -/
theorem insertAll_keeps_first_uses (tags : List String) :
    (empty.insertAll tags).toList = tags.eraseDups ∧
    (empty.insertAll tags).toList.Nodup ∧
    (∀ tag, (empty.insertAll tags).members.contains tag = true ↔
      tag ∈ (empty.insertAll tags).toList) ∧
    (empty.insertAll tags).size = tags.toFinset.card ∧
    (∀ tag, ((empty.insertAll tags).insert tag).1 = true ↔ tag ∉ tags) ∧
    ∀ more, (empty.insertAll tags).toList <+: (empty.insertAll (tags ++ more)).toList := by
  have hinStep := inStep_empty.insertAll tags
  refine ⟨toList_insertAll_empty tags, hinStep.nodup, hinStep.contains_iff, ?_, ?_, ?_⟩
  · have hsame : (empty.insertAll tags).toList.toFinset = tags.toFinset := by
      ext tag
      rw [List.mem_toFinset, List.mem_toFinset, ← hinStep.contains_iff, contains_insertAll_empty]
    rw [← hsame, List.toFinset_card_of_nodup hinStep.nodup]
    exact Array.length_toList.symm
  · intro tag
    rw [fst_insert, contains_insertAll_empty]
  · intro more
    rw [insertAll_append]
    exact prefix_insertAll _ more

end Pool

end Thicket
