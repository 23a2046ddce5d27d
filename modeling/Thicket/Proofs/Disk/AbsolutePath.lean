/-
  The absolute path of a place, as a text.

  Places are lists of names, the last name first, and operations take texts.  So whatever is said
  of an operation at a place goes through `Path.ofPlace`, which writes every name with a slash
  before it.  Three facts about this text are enough:

  1. **Cut at its slashes it gives the names back** (`split_ofPlace`), behind an empty piece for the
     slash at its beginning.  This needs names without slashes, and the names of entries are such.
  2. **Joining a name to it is what stepping to that name is** (`join_ofPlace`).  At the top,
     whose path ends in a slash already, the joining adds none.
  3. **Its length is the sum of the lengths of its names and their slashes**
     (`utf8ByteSize_ofPlace_cons`, `utf8ByteSize_trunk`), which is what the limit on paths is
     compared with.

  The top is the one place whose path is not made of its names, a slash where nothing would stand.
  A recursion on places is therefore about `trunk`, the text in front of the slash of a further
  name, and only the results are about paths.
-/
import Thicket.Disk.Path
import Mathlib.Algebra.Ring.Nat

namespace Thicket

namespace Path

/-! ## Cutting at slashes

  The cutting is a recursion on the characters that gives at least one piece, so what stands
  between two slashes can be found by induction on the characters before them. -/

theorem splitChars_ne_nil (chars : List Char) : splitChars chars ≠ [] := by
  cases chars with
  | nil => exact List.cons_ne_nil _ _
  | cons c rest =>
    rw [splitChars]
    split
    · exact List.cons_ne_nil _ _
    · split <;> exact List.cons_ne_nil _ _

/-- A slash cuts a text in two, whatever stands around it. -/
theorem splitChars_append_slash (front back : List Char) :
    splitChars (front ++ '/' :: back) = splitChars front ++ splitChars back := by
  induction front with
  | nil => simp [splitChars]
  | cons c front ih =>
    rw [List.cons_append, splitChars, splitChars, ih]
    by_cases hslash : c = '/'
    · rw [if_pos hslash, if_pos hslash, List.cons_append]
    · rw [if_neg hslash, if_neg hslash]
      -- before the first slash a symbol goes to the first piece, and there is one
      cases hfront : splitChars front with
      | nil => exact absurd hfront (splitChars_ne_nil front)
      | cons piece pieces => rfl

/-- Without a slash there is nothing to cut. -/
theorem splitChars_of_no_slash {chars : List Char} (h : '/' ∉ chars) :
    splitChars chars = [chars] := by
  induction chars with
  | nil => rfl
  | cons c rest ih =>
    have hc : c ≠ '/' := by
      rintro rfl
      exact h (List.mem_cons_self ..)
    rw [splitChars, if_neg hc, ih fun hmem => h (List.mem_cons_of_mem _ hmem)]

/-- Cutting at a slash, for texts: the pieces before it and those behind it. -/
theorem split_append (front back : String) :
    split (front ++ "/" ++ back) = split front ++ split back := by
  have hchars : (front ++ "/" ++ back).toList = front.toList ++ '/' :: back.toList := by
    simp [String.toList_append]
  rw [split, hchars, splitChars_append_slash, List.map_append]
  rfl

theorem split_of_no_slash {name : String} (h : '/' ∉ name.toList) : split name = [name] := by
  rw [split, splitChars_of_no_slash h, List.map_singleton, String.ofList_toList]

/-- The pieces of a path that ends in a slash and a name. -/
theorem split_append_slash (path : String) {name : String} (h : '/' ∉ name.toList) :
    split (path ++ "/" ++ name) = split path ++ [name] := by
  rw [split_append, split_of_no_slash h]

/-! ## Names from the path of an entry

  The path of an entry is the trunk of its directory, a slash, and its name. -/

/-- The text in front of the slash before an entry's name. -/
def trunk (place : Place) : String := place.foldr (fun name path => path ++ "/" ++ name) ""

theorem ofPlace_cons (name : String) (place : Place) :
    ofPlace (name :: place) = trunk place ++ "/" ++ name := rfl

/-- Below the top the trunk is the path; only for the top itself they differ. -/
theorem trunk_cons (name : String) (place : Place) :
    trunk (name :: place) = ofPlace (name :: place) := rfl

/-- The pieces of the path of an entry are an empty one and the names that lead to it. -/
theorem split_ofPlace {name : String} {place : Place}
    (h : ∀ step ∈ name :: place, IsStep step) :
    split (ofPlace (name :: place)) = "" :: (name :: place).reverse := by
  -- for trunks the top is no exception, so the induction is about them
  have htrunk : ∀ place : Place, (∀ step ∈ place, IsStep step) →
      split (trunk place) = "" :: place.reverse := by
    intro place
    induction place with
    | nil =>
      intro _
      rfl
    | cons name place ih =>
      intro hsteps
      obtain ⟨hname, hplace⟩ := List.forall_mem_cons.1 hsteps
      rw [trunk_cons, ofPlace_cons, split_append_slash _ hname.no_slash, ih hplace]
      simp
  exact htrunk (name :: place) h

/-- The last symbol of a text is that of its last part, if that part has any. -/
theorem getLast?_toList_append {text : String} (front : String) (h : text ≠ "") :
    (front ++ text).toList.getLast? = text.toList.getLast? := by
  have hne : text.toList ≠ [] := by simpa using h
  rw [String.toList_append, List.getLast?_append, List.getLast?_eq_some_getLast hne]
  rfl

/-- Joining a name to the path of a place gives the path of the entry of that name. -/
theorem join_ofPlace {place : Place} (h : ∀ step ∈ place, IsStep step) (name : String) :
    join (ofPlace place) name = ofPlace (name :: place) := by
  cases place with
  | nil =>
    rw [ofPlace_cons, join, if_pos (by simp [ofPlace])]
    simp [ofPlace, trunk]
  | cons last place =>
    have hlast : IsStep last := h last (List.mem_cons_self ..)
    have hend : (ofPlace (last :: place)).toList.getLast? ≠ some '/' := by
      rw [ofPlace_cons, getLast?_toList_append _ hlast.ne_empty]
      intro hslash
      exact hlast.no_slash (List.mem_of_getLast? hslash)
    rw [join, if_neg hend, ofPlace_cons name, trunk_cons]

/-! ## What the path is made of

  The operations test four things before they walk: that the path is not empty, whether it is
  absolute, that there is no NUL in it, and that it is not too long. -/

theorem ofPlace_cons_ne_empty (name : String) (place : Place) : ofPlace (name :: place) ≠ "" := by
  intro h
  have hlist := congrArg String.toList h
  simp [ofPlace_cons, String.toList_append] at hlist

theorem isAbsolute_ofPlace (name : String) (place : Place) :
    isAbsolute (ofPlace (name :: place)) = true := by
  -- whatever the last name is, the text begins with the slash before the first one
  have htrunk : ∀ place : Place, ∀ name : String,
      (trunk place ++ "/" ++ name).toList.head? = some '/' := by
    intro place
    induction place with
    | nil =>
      intro name
      simp [trunk, String.toList_append]
    | cons above place ih =>
      intro name
      rw [trunk_cons, ofPlace_cons, String.toList_append, String.toList_append,
        List.append_assoc, List.head?_append, ih]
      rfl
  rw [isAbsolute, ofPlace_cons, htrunk]
  rfl

/-- The path of an entry holds a NUL only if a name on it does. -/
theorem contains_nul_ofPlace {name : String} {place : Place} :
    (ofPlace (name :: place)).toList.contains '\x00' = true ↔
      ∃ step ∈ name :: place, '\x00' ∈ step.toList := by
  have htrunk : ∀ place : Place, '\x00' ∈ (trunk place).toList ↔
      ∃ step ∈ place, '\x00' ∈ step.toList := by
    intro place
    induction place with
    | nil => simp [trunk]
    | cons name place ih =>
      rw [trunk_cons, ofPlace_cons, String.toList_append, String.toList_append]
      simp [ih, or_comm]
  rw [List.contains_iff_mem]
  exact htrunk (name :: place)

/-- The length of a path, in bytes: that of the trunk, of one slash and of the name. -/
theorem utf8ByteSize_ofPlace_cons (name : String) (place : Place) :
    (ofPlace (name :: place)).utf8ByteSize =
      (trunk place).utf8ByteSize + 1 + name.utf8ByteSize := by
  rw [ofPlace_cons, String.utf8ByteSize_append, String.utf8ByteSize_append]
  rfl

/-- A path has a slash before each of its names. -/
theorem utf8ByteSize_trunk (place : Place) :
    (trunk place).utf8ByteSize = (place.map fun name => name.utf8ByteSize + 1).sum := by
  induction place with
  | nil => rfl
  | cons name place ih =>
    rw [trunk_cons, utf8ByteSize_ofPlace_cons, ih, List.map_cons, List.sum_cons]
    omega

/-- The path of a place is no shorter than what stands before a slash behind it. -/
theorem utf8ByteSize_trunk_le (place : Place) :
    (trunk place).utf8ByteSize ≤ (ofPlace place).utf8ByteSize := by
  cases place with
  | nil => exact Nat.zero_le _
  | cons name place => exact Nat.le_refl _

/-- The trunk of anything below an entry is its path. -/
theorem trunk_append_cons (front : Place) (name : String) (base : Place) :
    trunk (front ++ name :: base) = ofPlace (front ++ name :: base) := by
  cases front with
  | nil => rfl
  | cons step front => rfl

/-- A path with names of bounded length below a place. -/
theorem utf8ByteSize_ofPlace_append_le {front : Place} {bound : Nat}
    (hbound : ∀ step ∈ front, step.utf8ByteSize ≤ bound) (name : String) (base : Place) :
    (ofPlace (front ++ name :: base)).utf8ByteSize ≤
      (ofPlace (name :: base)).utf8ByteSize + (bound + 1) * front.length := by
  induction front with
  | nil => exact Nat.le_refl _
  | cons step front ih =>
    obtain ⟨hstep, hfront⟩ := List.forall_mem_cons.1 hbound
    have hrest := ih hfront
    rw [List.cons_append, utf8ByteSize_ofPlace_cons, trunk_append_cons, List.length_cons,
      Nat.mul_add, Nat.mul_one]
    omega

end Path

end Thicket
