/-
  Lines that are added one after another.

  Adding lines is one run (`appendAll`): each line is offered in turn, and whether it is taken or
  refused, the next one is offered to what the ledger and the disk have become.  Two invariants
  carry such runs.

  1. **In a file** every line is taken and the account grows by it (`appendAll_of_place`).
  2. **Anywhere** the count grows by the lines that are taken and by no others
     (`appendAll_leaves`), and on the full device the ledger stays stuck (`Stuck.appendAll`).

  So a ledger in a file is a text that lines are appended to.  The buffer is not seen from
  outside: the file and the buffer together are that text at every point, for what is shown of
  some lines holds of the first few of them too.  Closing the ledger, or giving it up, leaves the
  text in the file (`appending_refines_text`).

  The file is told by its path and not by its place: the path that the ledger was opened by goes
  on to lead to it, since writing changes neither directories nor links (`Wrote.find`).
-/
import Thicket.Proofs.Ledger.Buffer

namespace Thicket

namespace Ledger

variable {ledger : Ledger} {disk opened : Disk} {path : String} {place : Place} {entry : Entry}

/-! ## Runs

  A refusal does not end a run.  What it has left in the buffer is there for the next line. -/

/-- Offers lines one after another.  The answer is the lines that were taken, and what the ledger
    and the disk have become. -/
def appendAll (ledger : Ledger) (disk : Disk) :
    List (String × String) → List (String × String) × Ledger × Disk
  | [] => ([], ledger, disk)
  | (file, tag) :: lines =>
    match ledger.append disk file tag with
    | (.ok (), ledger, disk) =>
      let (taken, after) := appendAll ledger disk lines
      ((file, tag) :: taken, after)
    | (.error _, ledger, disk) => appendAll ledger disk lines

theorem appendAll_cons_of_ok {file tag : String} {state : Ledger × Disk}
    (h : ledger.append disk file tag = (.ok (), state)) (lines : List (String × String)) :
    ledger.appendAll disk ((file, tag) :: lines) =
      ((file, tag) :: (state.1.appendAll state.2 lines).1,
        (state.1.appendAll state.2 lines).2) := by
  rw [appendAll, h]

theorem appendAll_cons_of_error {file tag : String} {failure : Failure} {state : Ledger × Disk}
    (h : ledger.append disk file tag = (.error failure, state)) (lines : List (String × String)) :
    ledger.appendAll disk ((file, tag) :: lines) = state.1.appendAll state.2 lines := by
  rw [appendAll, h]

/-- **Lines are counted if they are taken**, and no others are. -/
theorem appendAll_leaves (ledger : Ledger) (disk : Disk) (lines : List (String × String)) :
    Leaves (ledger.appendAll disk lines).1.length (ledger, disk)
      (ledger.appendAll disk lines).2 := by
  induction lines generalizing ledger disk with
  | nil => exact Leaves.refl _
  | cons line lines ih =>
    obtain ⟨file, tag⟩ := line
    have hfirst := append_leaves ledger disk file tag
    cases hresult : ledger.append disk file tag with
    | mk outcome state =>
      rw [hresult] at hfirst
      have hrest := ih state.1 state.2
      cases outcome with
      | error failure =>
        rw [appendAll_cons_of_error hresult]
        have hboth := Leaves.trans hfirst hrest
        rw [Nat.zero_add] at hboth
        exact hboth
      | ok _ =>
        rw [appendAll_cons_of_ok hresult, List.length_cons, Nat.add_comm]
        exact Leaves.trans hfirst hrest

/-- A ledger stays stuck, whatever is offered to it. -/
theorem Stuck.appendAll (h : ledger.Stuck) (disk : Disk) (lines : List (String × String)) :
    (ledger.appendAll disk lines).2.1.Stuck := by
  induction lines generalizing ledger disk with
  | nil => exact h
  | cons line lines ih =>
    obtain ⟨file, tag⟩ := line
    have hfirst := h.append disk file tag
    cases hresult : ledger.append disk file tag with
    | mk outcome state =>
      rw [hresult] at hfirst
      cases outcome with
      | error failure =>
        rw [appendAll_cons_of_error hresult]
        exact ih hfirst state.2
      | ok _ =>
        rw [appendAll_cons_of_ok hresult]
        exact ih hfirst state.2

/-! ## In a file

  The invariant is carried along the lines by what one line adds. -/

theorem Wrote.refl (hend : ledger.AtEnd disk) : Wrote .empty 0 (ledger, disk) (ledger, disk) :=
  ⟨hend, ByteArray.append_empty.symm, rfl, rfl, rfl, Iff.rfl, fun _ _ => rfl⟩

/-- A file takes every line. -/
theorem append_of_place (hend : ledger.AtEnd disk) (hplace : ledger.place? = some place)
    (file tag : String) :
    ∃ state, ledger.append disk file tag = (.ok (), state) ∧
      Wrote (line file tag).toUTF8 1 (ledger, disk) state := by
  have haccount := append_accounts hend file tag
  cases hresult : ledger.append disk file tag with
  | mk outcome state =>
    rw [hresult] at haccount
    cases outcome with
    | error failure =>
      -- only the full device refuses
      have hfull : ledger.sink = .full := haccount.full
      rw [place?_of_full hfull] at hplace
      cases hplace
    | ok _ => exact ⟨state, rfl, haccount⟩

/-- **A file takes line after line**, and the account grows by their text. -/
theorem appendAll_of_place (hend : ledger.AtEnd disk) (hplace : ledger.place? = some place)
    (lines : List (String × String)) :
    ∃ state, ledger.appendAll disk lines = (lines, state) ∧
      Wrote (text lines).toUTF8 lines.length (ledger, disk) state := by
  induction lines generalizing ledger disk with
  | nil => exact ⟨(ledger, disk), rfl, Wrote.refl hend⟩
  | cons first lines ih =>
    obtain ⟨file, tag⟩ := first
    obtain ⟨middle, happend, hfirst⟩ := append_of_place hend hplace file tag
    obtain ⟨state, hrest, hwrote⟩ := ih hfirst.atEnd (hfirst.place.trans hplace)
    refine ⟨state, ?_, ?_⟩
    · rw [appendAll_cons_of_ok happend, hrest]
    · have htext : (text ((file, tag) :: lines)).toUTF8 =
          (line file tag).toUTF8 ++ (text lines).toUTF8 := String.toByteArray_append ..
      rw [htext, List.length_cons, Nat.add_comm]
      exact hfirst.trans hwrote

/-- The path still leads to the ledger's file, in which the front of the account stands. -/
theorem Wrote.find {bytes : ByteArray} {m n : Nat} {content : ByteArray} {state : Ledger × Disk}
    (h : Wrote bytes m (ledger, disk) state) (hleaves : Leaves n (ledger, disk) state)
    (hplace : ledger.place? = some place) (hfind : disk.find path = .ok (place, .file content)) :
    ∃ stored, state.2.find path = .ok (place, .file stored) ∧
      stored ++ state.1.buffer = state.1.account state.2 := by
  have hstored := get?_of_place h.atEnd (h.place.trans hplace)
  refine ⟨_, Disk.find_of_rewritten hfind hleaves.home hstored ?_, rfl⟩
  intro other hother
  exact h.elsewhere other fun hsame => hother (Option.some.inj (hsame.trans hplace))

/-- Closing a ledger does not move the directory that relative paths start from. -/
theorem home_finish (ledger : Ledger) (disk : Disk) : (ledger.finish disk).2.home = disk.home := by
  have hflush := (flush_leaves ledger disk).1
  rw [finish]
  cases hresult : flush (ledger, disk) with
  | error cause state =>
    rw [hresult] at hflush
    exact Leaves.home hflush
  | ok _ state =>
    rw [hresult] at hflush
    exact Leaves.home hflush

/-- **Closing leaves the account in the file that the path leads to.** -/
theorem finish_of_find {content : ByteArray} (hend : ledger.AtEnd disk)
    (hplace : ledger.place? = some place) (hfind : disk.find path = .ok (place, .file content)) :
    ∃ closed, ledger.finish disk = (.ok ledger.entries, closed) ∧
      closed.find path = .ok (place, .file (ledger.account disk)) := by
  obtain ⟨closed, hfinish, hfile, helsewhere⟩ := finish_of_place hend hplace
  have hhome : closed.home = disk.home := by
    rw [← home_finish ledger disk, hfinish]
  exact ⟨closed, hfinish, Disk.find_of_rewritten hfind hhome hfile helsewhere⟩

/-! ## From the opening on

  A ledger that was just opened has an empty account, so what it holds later are the lines
  alone. -/

/-- A ledger as it is opened: nothing was put yet. -/
theorem create_eq_ok (hcreate : create disk path = .ok (ledger, opened)) :
    ∃ sink, disk.openForWriting path = .ok (sink, opened) ∧
      ledger = { path, sink, buffer := .empty, entries := 0 } := by
  rw [create] at hcreate
  cases hopen : disk.openForWriting path with
  | error cause =>
    rw [hopen] at hcreate
    cases hcreate
  | ok opening =>
    rw [hopen] at hcreate
    cases hcreate
    exact ⟨_, rfl, rfl⟩

/-- A ledger that can be opened, as it can be seen by evaluation, and what its path then leads
    to. -/
theorem exists_of_create? (h : (create disk path).toOption.map (fun made =>
      (made.2.find path).toOption) = some (some (place, entry))) :
    ∃ ledger opened, create disk path = .ok (ledger, opened) ∧
      opened.find path = .ok (place, entry) := by
  cases hcreate : create disk path with
  | error failure =>
    rw [hcreate] at h
    cases h
  | ok made =>
    rw [hcreate] at h
    refine ⟨made.1, made.2, rfl, ?_⟩
    cases hfound : made.2.find path with
    | error cause => simp [Except.toOption, hfound] at h
    | ok found => simpa [Except.toOption, hfound] using h

/-- A ledger that is opened in a file writes at the end of it, and its account is empty. -/
theorem atEnd_of_create {content : ByteArray} (hcreate : create disk path = .ok (ledger, opened))
    (hfind : opened.find path = .ok (place, .file content)) :
    ledger.AtEnd opened ∧ ledger.place? = some place ∧ ledger.account opened = .empty := by
  obtain ⟨sink, hopen, rfl⟩ := create_eq_ok hcreate
  rcases Disk.find_of_openForWriting hopen hfind with ⟨rfl, hempty⟩ | ⟨-, hdevice⟩
  · obtain ⟨hentry, -⟩ := Disk.get?_of_findAt (fun _ => rfl) hfind
    cases hempty
    refine ⟨⟨.empty, hentry, rfl⟩, rfl, ?_⟩
    show opened.contentAt place ++ .empty = .empty
    rw [Disk.contentAt_of_get? hentry, ByteArray.append_empty]
  · cases hdevice

/-- A ledger that is opened on the full device is stuck there. -/
theorem stuck_of_create (hcreate : create disk path = .ok (ledger, opened))
    (hfind : opened.find path = .ok (place, .fullDevice)) : ledger.Stuck := by
  obtain ⟨sink, hopen, rfl⟩ := create_eq_ok hcreate
  rcases Disk.find_of_openForWriting hopen hfind with ⟨-, hfile⟩ | ⟨rfl, -⟩
  · cases hfile
  · exact ⟨rfl, fun hpos => absurd hpos (Nat.lt_irrefl 0)⟩

/-- What a ledger in the file at the end of a path is once it has taken some lines, and what becomes
    of it when it is closed. -/
structure Holds (path : String) (place : Place) (lines : List (String × String))
    (state : Ledger × Disk) : Prop where
  stored : ∃ stored, state.2.find path = .ok (place, .file stored) ∧
    stored ++ state.1.buffer = (text lines).toUTF8
  finish : ∃ closed, state.1.finish state.2 = (.ok lines.length, closed) ∧
    closed.find path = .ok (place, .file (text lines).toUTF8)

/-- **A file takes whatever is offered from the opening on.** -/
theorem appendAll_of_file {content : ByteArray}
    (hcreate : create disk path = .ok (ledger, opened))
    (hfile : opened.find path = .ok (place, .file content)) (lines : List (String × String)) :
    ∃ state, ledger.appendAll opened lines = (lines, state) ∧ Holds path place lines state := by
  obtain ⟨hend, hplace, hnothing⟩ := atEnd_of_create hcreate hfile
  obtain ⟨sink, -, hledger⟩ := create_eq_ok hcreate
  obtain ⟨state, happend, hwrote⟩ := appendAll_of_place hend hplace lines
  have hleaves := appendAll_leaves ledger opened lines
  rw [happend] at hleaves
  have haccount : state.1.account state.2 = (text lines).toUTF8 := by
    rw [hwrote.account, hnothing, ByteArray.empty_append]
  have hcount : state.1.entries = lines.length := by
    rw [hwrote.entries, hledger, Nat.zero_add]
  obtain ⟨stored, hfind, hsplit⟩ := hwrote.find hleaves hplace hfile
  obtain ⟨closed, hfinish, hclosed⟩ :=
    finish_of_find hwrote.atEnd (hwrote.place.trans hplace) hfind
  rw [hcount] at hfinish
  rw [haccount] at hclosed
  exact ⟨state, happend, ⟨stored, hfind, hsplit.trans haccount⟩, ⟨closed, hfinish, hclosed⟩⟩

/-- **A ledger in a file is a text that lines are appended to.**  Whatever lines are offered to it
    from its opening on, all of them are taken; then the content of the file and after it the buffer
    are the text of these lines, with no more in the buffer than it can hold; closing the ledger
    tells how many lines there are and leaves their text in the file, and so does giving it up. -/
theorem appending_refines_text {content : ByteArray}
    (hcreate : create disk path = .ok (ledger, opened))
    (hfile : opened.find path = .ok (place, .file content)) (lines : List (String × String)) :
    ∃ last after stored closed,
      ledger.appendAll opened lines = (lines, last, after) ∧
      after.find path = .ok (place, .file stored) ∧
      stored ++ last.buffer = (text lines).toUTF8 ∧
      last.buffer.size ≤ capacity ∧
      last.finish after = (.ok lines.length, closed) ∧
      last.abandon after = closed ∧
      closed.find path = .ok (place, .file (text lines).toUTF8) := by
  obtain ⟨⟨last, after⟩, happend, hholds⟩ := appendAll_of_file hcreate hfile lines
  obtain ⟨stored, hfind, hsplit⟩ := hholds.stored
  obtain ⟨closed, hfinish, hclosed⟩ := hholds.finish
  have hbounded : last.buffer.size ≤ capacity := by
    have hleaves := appendAll_leaves ledger opened lines
    rw [happend] at hleaves
    obtain ⟨sink, -, hledger⟩ := create_eq_ok hcreate
    apply hleaves.bounded
    rw [hledger]
    exact Nat.zero_le _
  have habandon : last.abandon after = closed := by
    rw [abandon, hfinish]
  exact ⟨last, after, stored, closed, happend, hfind, hsplit, hbounded, hfinish, habandon, hclosed⟩

/-- A piece as long as the buffer, and a line that ends where the buffer does, in a new file. -/
def longLines : List (String × String) :=
  [(String.ofList (List.replicate 8192 'a'), "x"), (String.ofList (List.replicate 8190 'b'), "")]

/-- The long line goes past the buffer and the other one fills it to its end; the file has both
    when the ledger is closed. -/
theorem long_lines_refine_text :
    ∃ ledger opened last after stored closed,
      create Disk.empty "/t" = .ok (ledger, opened) ∧
      opened.find "/t" = .ok (["t"], .file .empty) ∧
      ledger.appendAll opened longLines = (longLines, last, after) ∧
      after.find "/t" = .ok (["t"], .file stored) ∧
      stored ++ last.buffer = (text longLines).toUTF8 ∧
      last.buffer.size ≤ capacity ∧
      last.finish after = (.ok 2, closed) ∧
      last.abandon after = closed ∧
      closed.find "/t" = .ok (["t"], .file (text longLines).toUTF8) := by
  obtain ⟨ledger, opened, hcreate, hfind⟩ : ∃ ledger opened,
      create Disk.empty "/t" = .ok (ledger, opened) ∧
        opened.find "/t" = .ok (["t"], .file .empty) :=
    exists_of_create? (by decide +kernel)
  obtain ⟨last, after, stored, closed, hrefines⟩ := appending_refines_text hcreate hfind longLines
  exact ⟨ledger, opened, last, after, stored, closed, hcreate, hfind, hrefines⟩

end Ledger

end Thicket
