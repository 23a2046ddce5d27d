/-
  The identifiers of a fixture number its tree.

  The record of a completed fixture numbers every directory of the tree and what is below it
  (`Planted.numbered`).  On the disk the same entries are found below the fixture directory
  (`Numbered.below`), and the lines are those of the ledger; so the order in which a tree was grown
  can be read off the names and the tags that it left behind (`generate_numbers_in_order`).

  Numbering is a property of a view of the tree, which tells the entry at each place, and of the
  lines.  The record's view starts at the top of the tree and the disk's at the top of the disk.
  Going from one to the other puts the place of the fixture behind every place, and changes no
  name.
-/
import Thicket.Proofs.Fixture.Identifiers
import Thicket.Proofs.Fixture.Reproduction
import Thicket.Proofs.Sketch.Order

namespace Thicket

variable {σ : Type}

/-! ## Further below

  The top of the tree itself has a name on the disk and none in the record; so these lemmas are
  about places below it. -/

section Below

variable {codec : Codec} {view view' : Place → Option Entry} {top : Place}
  {lines : List (String × String)} (hview : ∀ place, view (place ++ top) = view' place)

include hview

/-- The identifier of an entry is in its name, wherever the entry is. -/
theorem identifierAt?_below {place : Place} (hne : place ≠ []) :
    identifierAt? view (place ++ top) = identifierAt? view' place := by
  rw [identifierAt?, identifierAt?, hview, Path.lastName_append hne]

theorem counterAt?_below {place : Place} (hne : place ≠ []) :
    counterAt? codec view (place ++ top) = counterAt? codec view' place := by
  rw [counterAt?, counterAt?, identifierAt?_below hview hne]

/-- What occurs in a subtree of the disk occurs in the subtree of the record. -/
theorem OccursIn.of_below {place : Place} (hne : place ≠ []) {identifier : String}
    (h : OccursIn view lines (place ++ top) identifier) :
    OccursIn view' lines place identifier := by
  have hnil : ∀ front, front ++ place ≠ [] := fun front heq =>
    hne (List.append_eq_nil_iff.1 heq).2
  cases h with
  | entry hbelow hother hidentifier =>
    obtain ⟨front, rfl⟩ := hbelow
    rw [← List.append_assoc] at hother hidentifier
    rw [identifierAt?_below hview (hnil front)] at hidentifier
    exact .entry ⟨front, rfl⟩ (fun heq => hother (by rw [heq])) hidentifier
  | tag hbelow hfile hfirst =>
    obtain ⟨front, rfl⟩ := hbelow
    rw [← List.append_assoc] at hfile hfirst
    rw [hview] at hfile
    rw [Path.lastName_append (hnil front)] at hfirst
    exact .tag ⟨front, rfl⟩ hfile hfirst

/-- What is numbered is numbered wherever the places are counted from. -/
theorem Numbered.below {directory : Place} (h : Numbered codec view' lines directory) :
    Numbered codec view lines (directory ++ top) := by
  have hcounter : ∀ name, counterAt? codec view (name :: (directory ++ top)) =
      counterAt? codec view' (name :: directory) :=
    fun name => counterAt?_below hview (List.cons_ne_nil name directory)
  have hentry : ∀ name, view (name :: (directory ++ top)) = view' (name :: directory) :=
    fun name => hview (name :: directory)
  have hoccurs : ∀ name identifier, OccursIn view lines (name :: (directory ++ top)) identifier →
      OccursIn view' lines (name :: directory) identifier :=
    fun name _ => OccursIn.of_below hview (List.cons_ne_nil name directory)
  constructor
  · intro name
    rw [hentry, hcounter]
    exact h.counted name
  · intro name other k
    rw [hcounter, hcounter]
    exact h.apart name other k
  · intro name other content k l
    rw [hentry, hentry, hcounter, hcounter]
    exact h.directories_first name other content k l
  · intro name k
    rw [hcounter]
    exact fun hname identifier hmem => h.above name k hname identifier (hoccurs _ _ hmem)
  · intro name other k l
    rw [hcounter, hcounter]
    exact fun hname hother hlt identifier hmem =>
      h.between name other k l hname hother hlt identifier (hoccurs _ _ hmem)

end Below

namespace Generator

variable [WordSource σ] {generator : Generator} {name : String} {world after : World σ}
  {base : Place} {sketch : Sketch σ} {summary : Summary}

/-- Every directory of a completed fixture is numbered. -/
theorem Completed.numbered (h : Completed generator name world base sketch summary after)
    (hvalid : generator.settings.fault? = none) {directory : Place}
    (hbelow : (name :: base) <:+ directory)
    (hdirectory : after.disk.get? directory = some .directory) :
    Numbered generator.codec after.disk.get? sketch.history.lines directory := by
  obtain ⟨place, rfl⟩ := hbelow
  have haccounted := h.accounted hvalid
  obtain ⟨tree, -, htree⟩ := exists_tree_of_sketchFill hvalid h.sketched
  have hnodup := haccounted.wellMade.places_nodup
  rw [h.tree] at hdirectory
  have hmade : place = [] ∨ place ∈ sketch.history.directoryPlaces :=
    (History.exists_event_of_entryAt hdirectory).imp_right History.mem_directoryPlaces.2
  rw [History.directoryPlaces_eq_filterMap, htree] at hmade
  rw [htree] at hnodup
  obtain ⟨before, plantings, behind, hplanted⟩ := Tree.exists_planted hnodup hmade
  rw [← htree] at hplanted
  exact (hplanted.numbered haccounted).below h.tree

/-- **The identifiers number the tree in the order in which it was grown.**  After a successful call
    the names in every directory of the fixture are the identifiers of different counters, those of
    the subdirectories before those of the files.  What occurs in the subtree of an entry, the
    names below and the tags that are first used there, has counters after the entry's own and
    before those of all entries that follow in the directory. -/
theorem generate_numbers_in_order (hvalid : generator.settings.fault? = none)
    (hplain : generator.LedgerPlain name world)
    (hgenerate : generator.generate name world = .ok summary after) :
    ∃ base lines, generator.base? world = some base ∧
      after.disk.get? (ledgerPlace name base) = some (.file (Ledger.text lines).toUTF8) ∧
      Ledger.readLines (Ledger.text lines) = lines ∧
      ∀ directory, (name :: base) <:+ directory →
        after.disk.get? directory = some .directory →
        Numbered generator.codec after.disk.get? lines directory := by
  obtain ⟨base, sketch, h⟩ := generate_eq_ok hplain.unlinked hgenerate
  exact ⟨base, sketch.history.lines, h.base_eq, h.ledger_eq hplain,
    readLines_text_of_accounted (h.accounted hvalid), fun _ => h.numbered hvalid⟩

/-- The little fixture is numbered in order. -/
theorem little_numbers_in_order :
    ∃ summary after, little.generate "f" World.little = .ok summary after ∧
      ∃ base lines, little.base? World.little = some base ∧
        after.disk.get? (ledgerPlace "f" base) = some (.file (Ledger.text lines).toUTF8) ∧
        Ledger.readLines (Ledger.text lines) = lines ∧
        ∀ directory, ("f" :: base) <:+ directory →
          after.disk.get? directory = some .directory →
          Numbered little.codec after.disk.get? lines directory := by
  obtain ⟨after, hgenerate⟩ := little_generates
  exact ⟨_, after, hgenerate, generate_numbers_in_order little_valid little_ledgerPlain hgenerate⟩

end Generator

end Thicket
