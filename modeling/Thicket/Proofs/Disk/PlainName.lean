/-
  Which texts are plain names.

  A text is accepted as a plain name if it is a single component that is written exactly so.
  These are the texts that are not empty, do not stand for a directory by themselves and have no
  slash (`isPlainName_iff`).  The test is made by taking a path apart, so the proof goes through
  the pieces: no piece has a slash in it (`no_slash_of_mem_split`), a piece is kept as a name
  unless it is empty, a point or two points, and a text without slashes is its only piece.

  Such a text is a name for the disk as soon as it has no NUL (`isStep_of_isPlainName`).  The NUL
  is not part of the test: it is only noticed when the path is handed to the system.

  The last two lemmas are for the names that the program makes up itself, the identifiers and the
  name of the ledger, which are long enough to be neither of the two that stand for a directory.
-/
import Thicket.Proofs.Disk.AbsolutePath

namespace Thicket

namespace Path

/-- No piece has a slash in it, for each was cut at the first one. -/
theorem no_slash_of_mem_splitChars {chars piece : List Char} (h : piece ∈ splitChars chars) :
    '/' ∉ piece := by
  induction chars generalizing piece with
  | nil =>
    rw [splitChars, List.mem_singleton] at h
    rw [h]
    exact List.not_mem_nil
  | cons c rest ih =>
    rw [splitChars] at h
    by_cases hslash : c = '/'
    · rw [if_pos hslash] at h
      rcases List.mem_cons.1 h with rfl | hrest
      · exact List.not_mem_nil
      · exact ih hrest
    · rw [if_neg hslash] at h
      cases hsplit : splitChars rest with
      | nil => exact absurd hsplit (splitChars_ne_nil rest)
      | cons first pieces =>
        rw [hsplit] at h ih
        rcases List.mem_cons.1 h with rfl | hpieces
        · rw [List.mem_cons, not_or]
          exact ⟨fun heq => hslash heq.symm, ih (List.mem_cons_self ..)⟩
        · exact ih (List.mem_cons_of_mem _ hpieces)

theorem no_slash_of_mem_split {path piece : String} (h : piece ∈ split path) :
    '/' ∉ piece.toList := by
  obtain ⟨chars, hchars, rfl⟩ := List.mem_map.1 h
  rw [String.toList_ofList]
  exact no_slash_of_mem_splitChars hchars

/-- **The plain names.** -/
theorem isPlainName_iff {name : String} :
    isPlainName name = true ↔ name ≠ "" ∧ name ≠ "." ∧ name ≠ ".." ∧ '/' ∉ name.toList := by
  constructor
  · intro h
    have hcomponents : components name = [.name name] := by simpa [isPlainName] using h
    -- the only component is a step, for it is no root and no leading point
    have hsteps : (split name).filterMap Component.ofPiece? = [.name name] := by
      rw [components] at hcomponents
      split at hcomponents
      · cases hcomponents
      · split at hcomponents
        · cases hcomponents
        · exact hcomponents
    have hmem : Component.name name ∈ (split name).filterMap Component.ofPiece? := by simp [hsteps]
    obtain ⟨piece, hpiece, hname⟩ := List.mem_filterMap.1 hmem
    rw [Component.ofPiece?] at hname
    split at hname
    · cases hname
    · rename_i hhere
      rw [not_or] at hhere
      split at hname
      · cases hname
      · rename_i habove
        cases hname
        exact ⟨hhere.1, hhere.2, habove, no_slash_of_mem_split hpiece⟩
  · rintro ⟨hempty, hhere, habove, hslash⟩
    have hsplit : split name = [name] := split_of_no_slash hslash
    have habsolute : isAbsolute name = false := by
      rw [isAbsolute, beq_eq_false_iff_ne]
      intro hhead
      exact hslash (List.mem_of_mem_head? hhead)
    have hpiece : Component.ofPiece? name = some (.name name) := by
      simp [Component.ofPiece?, hempty, hhere, habove]
    simp [isPlainName, components, hsplit, habsolute, hpiece, hhere]

/-- A plain name without a NUL is a name that a path can step to. -/
theorem isStep_of_isPlainName {name : String} (h : isPlainName name = true)
    (hnul : '\x00' ∉ name.toList) : IsStep name := by
  obtain ⟨hempty, hhere, habove, hslash⟩ := isPlainName_iff.1 h
  exact ⟨hempty, hhere, habove, hslash, hnul⟩

/-- A text of three characters or more is none of those that stand for a directory. -/
theorem isStep_of_three_le_length {text : String} (hlength : 3 ≤ text.toList.length)
    (hslash : '/' ∉ text.toList) (hnul : '\x00' ∉ text.toList) : IsStep text := by
  have hne : ∀ other : String, other.toList.length < 3 → text ≠ other := by
    rintro other hother rfl
    omega
  exact ⟨hne _ (by decide), hne _ (by decide), hne _ (by decide), hslash, hnul⟩

/-- A name with a suffix that has no slash and no NUL, and is long enough not to be mistaken. -/
theorem IsStep.append {name suffix : String} (h : IsStep name) (hlength : 2 ≤ suffix.toList.length)
    (hslash : '/' ∉ suffix.toList) (hnul : '\x00' ∉ suffix.toList) : IsStep (name ++ suffix) := by
  have hname : 1 ≤ name.toList.length := by
    rw [Nat.one_le_iff_ne_zero, ne_eq, List.length_eq_zero_iff]
    intro hnil
    exact h.ne_empty (String.toList_eq_nil_iff.1 hnil)
  -- the name has a symbol and the suffix two, which is one more than the longest special name
  refine isStep_of_three_le_length ?_ ?_ ?_
  · rw [String.toList_append, List.length_append]
    omega
  · rw [String.toList_append, List.mem_append, not_or]
    exact ⟨h.no_slash, hslash⟩
  · rw [String.toList_append, List.mem_append, not_or]
    exact ⟨h.no_nul, hnul⟩

end Path

end Thicket
