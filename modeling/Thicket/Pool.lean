/-
  The pool of tags in use.

  The tags stand in the order of their first use, so that choosing one at random depends on nothing
  but the draws; a set beside them answers whether a tag is in use.
-/
import Std.Data.TreeSet

namespace Thicket

/-- The tags in use, by first use. -/
structure Pool where
  order : Array String
  members : Std.TreeSet String

namespace Pool

/-- No tags. -/
def empty : Pool := ⟨#[], ∅⟩

/-- The tag is in use. -/
def contains (pool : Pool) (tag : String) : Bool := pool.members.contains tag

/-- How many tags are in use. -/
def size (pool : Pool) : Nat := pool.order.size

/-- No tag is in use. -/
def isEmpty (pool : Pool) : Bool := pool.order.isEmpty

/-- The tags by first use. -/
def toList (pool : Pool) : List String := pool.order.toList

/-- Puts a tag to use; true if it was not in use before. -/
def insert (pool : Pool) (tag : String) : Bool × Pool :=
  if pool.contains tag then (false, pool)
  else (true, ⟨pool.order.push tag, pool.members.insert tag⟩)

end Pool

/-- A tag is added at the end unless it is in use. -/
theorem Pool.toList_insert (pool : Pool) (tag : String) :
    (pool.insert tag).2.toList =
      if pool.contains tag then pool.toList else pool.toList ++ [tag] := by
  unfold Pool.insert
  split <;> simp [Pool.toList]

/-- A tag is in use if it was before or is the one put to use. -/
theorem Pool.contains_insert (pool : Pool) (tag other : String) :
    (pool.insert tag).2.contains other = true ↔ other = tag ∨ pool.contains other = true := by
  unfold Pool.insert
  split
  · rename_i h
    constructor
    · exact Or.inr
    · rintro (rfl | hother)
      · exact h
      · exact hother
  · simp only [Pool.contains, Std.TreeSet.contains_insert, Bool.or_eq_true, beq_iff_eq,
      Std.LawfulEqCmp.compare_eq_iff_eq]
    rw [eq_comm]

/-! ## Small checks -/

example : ((((Pool.empty.insert "b").2.insert "a").2.insert "b").2).toList = ["b", "a"] := by
  decide +kernel

end Thicket
