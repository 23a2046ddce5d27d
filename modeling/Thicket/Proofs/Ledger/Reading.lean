/-
  Reading a ledger.

  The text of a ledger is cut at its newlines, and every line at its tab.  If no file and no tag
  holds one of these, reading gives back what was written (`readLines_text`).

  The reader is written for texts of any kind: it takes what stands before the first tab of a line
  as the file and all the rest as the tag, and a last line without a newline counts too.  So it
  can be asked what a ledger says without knowing how it was written.  Identifiers have no marks
  in them, and so the lines of a fixture are always read as they were meant.
-/
import Thicket.Proofs.Ledger.Account

namespace Thicket

namespace Ledger

/-- What stands before the first mark, and what stands behind it. -/
def cutAt (mark : Char) (chars : List Char) : List Char × List Char :=
  (chars.takeWhile (· ≠ mark), (chars.dropWhile (· ≠ mark)).drop 1)

/-- Behind the first mark there is less text than before, so the reader comes to an end. -/
theorem length_cutAt_lt (mark : Char) {chars : List Char} (h : chars ≠ []) :
    (cutAt mark chars).2.length < chars.length := by
  have hpos : 0 < chars.length := List.length_pos_iff.2 h
  have hle : (chars.dropWhile (· ≠ mark)).length ≤ chars.length :=
    (List.dropWhile_sublist _).length_le
  rw [cutAt, List.length_drop]
  omega

/-- The lines of a text: what stands before the tab, and what stands behind it. -/
def readChars (chars : List Char) : List (String × String) :=
  if h : chars = [] then []
  else
    have := length_cutAt_lt '\n' h
    let line := (cutAt '\n' chars).1
    (String.ofList (cutAt '\t' line).1, String.ofList (cutAt '\t' line).2) ::
      readChars (cutAt '\n' chars).2
termination_by chars.length

/-- The files and tags in the text of a ledger. -/
def readLines (text : String) : List (String × String) := readChars text.toList

/-- A text that can stand in a line. -/
def Fits (text : String) : Prop := '\t' ∉ text.toList ∧ '\n' ∉ text.toList

/-- A text without marks in front of a mark is what is cut off. -/
theorem cutAt_append {mark : Char} {front : List Char} (h : mark ∉ front) (back : List Char) :
    cutAt mark (front ++ mark :: back) = (front, back) := by
  have hfront : ∀ c ∈ front, decide (c ≠ mark) = true := by
    intro c hc
    rw [decide_eq_true_eq]
    rintro rfl
    exact h hc
  rw [cutAt, List.takeWhile_append_of_pos hfront, List.dropWhile_append_of_pos hfront]
  simp

/-- **Reading gives back the lines that were written.** -/
theorem readLines_text {lines : List (String × String)}
    (h : ∀ line ∈ lines, Fits line.1 ∧ Fits line.2) : readLines (text lines) = lines := by
  -- along the lines: the first newline ends the first line, and its first tab ends the file
  induction lines with
  | nil =>
    rw [readLines, readChars, dif_pos (by rfl)]
  | cons first lines ih =>
    obtain ⟨⟨hfile, htag⟩, hlines⟩ := List.forall_mem_cons.1 h
    have htext : (text (first :: lines)).toList =
        (first.1.toList ++ '\t' :: first.2.toList) ++ '\n' :: (text lines).toList := by
      show (line first.1 first.2 ++ text lines).toList = _
      simp [line, String.toList_append]
    have hline : '\n' ∉ first.1.toList ++ '\t' :: first.2.toList := by
      rw [List.mem_append, List.mem_cons]
      rintro (hmem | heq | hmem)
      · exact hfile.2 hmem
      · cases heq
      · exact htag.2 hmem
    rw [readLines, htext, readChars, dif_neg (by simp)]
    simp only [cutAt_append hline, cutAt_append hfile.1, String.ofList_toList]
    rw [← readLines, ih hlines]

example : readLines "a.dat\tx\nb.dat\ty\n" = [("a.dat", "x"), ("b.dat", "y")] := by cbv

end Ledger

/-- What is read at a place is the text; on a device there is nothing to read. -/
def Disk.ReadsAs (disk : Disk) (place : Place) (text : String) : Prop :=
  match disk.get? place with
  | some (.file content) => content = text.toUTF8
  | some .fullDevice => text = ""
  | _ => False

end Thicket
