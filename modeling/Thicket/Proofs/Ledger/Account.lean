/-
  The account of a ledger: what is on the disk, and behind it what is in the buffer.

  However a line is cut into pieces and however the pieces meet the buffer's end, putting one adds
  exactly that line to the account (`append_accounts`).

  1. **The invariant** is `AtEnd`: the ledger writes at the end of a file that is there, or to the
     device that takes nothing.
  2. **One step** — `Wrote` says what a step may do: it adds bytes to the account and touches no
     other place.  A step is refused only on the full device, and then the disk is as it was
     (`Refused`).  `Accounts` joins the two, and goes through sequences (`Accounts.bind`).
  3. **The pieces** — putting a piece has four ways (`put_eq`): it is kept, or the buffer is sent
     to the disk first and then the piece is kept or sent, or it is as large as the buffer and is
     sent at once.  That the order is kept needs an argument only where a piece goes past the
     buffer, for then the buffer must be empty (`send_accounts_of_empty`).
  4. **Closing** leaves the whole account on the disk (`finish_accounts`).

  Seen this way a buffered ledger is a text that grows at its end, and the size of the buffer is
  of no account.
-/
import Thicket.Ledger
import Thicket.Proofs.Steps

namespace Thicket

/-- The content of the file at a place; nothing if there is none. -/
def Disk.contentAt (disk : Disk) (place : Place) : ByteArray :=
  match disk.get? place with
  | some (.file content) => content
  | _ => .empty

theorem Disk.contentAt_of_get? {disk : Disk} {place : Place} {content : ByteArray}
    (h : disk.get? place = some (.file content)) : disk.contentAt place = content := by
  simp [contentAt, h]

namespace Ledger

/-! ## The account

  Both parts belong to it in this order, and the end of the one is where the other begins. -/

/-- The place of the file that a ledger writes to, if it is a file. -/
def place? (ledger : Ledger) : Option Place :=
  match ledger.sink with
  | .file place _ => some place
  | _ => none

theorem place?_of_file {ledger : Ledger} {place : Place} {offset : Nat}
    (h : ledger.sink = .file place offset) : ledger.place? = some place := by
  rw [place?, h]

theorem place?_of_full {ledger : Ledger} (h : ledger.sink = .full) : ledger.place? = none := by
  rw [place?, h]

/-- What has reached the disk. -/
def written (ledger : Ledger) (disk : Disk) : ByteArray :=
  match ledger.sink with
  | .file place _ => disk.contentAt place
  | _ => .empty

/-- All that was put: what has reached the disk, and the buffer. -/
def account (ledger : Ledger) (disk : Disk) : ByteArray := ledger.written disk ++ ledger.buffer

/-- The ledger writes at the end of a file that is there, or to the full device.  A ledger whose
    file is gone has lost it and is at no end; that does not come about while only the ledger
    and the growing of the fixture change the disk. -/
def AtEnd (ledger : Ledger) (disk : Disk) : Prop :=
  match ledger.sink with
  | .file place offset => ∃ content, disk.get? place = some (.file content) ∧ offset = content.size
  | .full => True
  | .lost => False

/-- Only the ledger's own file has a say in its account. -/
theorem written_congr {ledger : Ledger} {before after : Disk}
    (h : ∀ place, ledger.place? = some place → after.get? place = before.get? place) :
    ledger.written after = ledger.written before := by
  unfold written
  cases hsink : ledger.sink with
  | file place offset =>
    show after.contentAt place = before.contentAt place
    rw [Disk.contentAt, Disk.contentAt, h place (by simp [place?, hsink])]
  | full => rfl
  | lost => rfl

/-- A ledger stays at the end of its file as long as nothing else changes that. -/
theorem AtEnd.congr {ledger : Ledger} {before after : Disk} (hend : ledger.AtEnd before)
    (h : ∀ place, ledger.place? = some place → after.get? place = before.get? place) :
    ledger.AtEnd after := by
  unfold AtEnd at hend ⊢
  cases hsink : ledger.sink with
  | file place offset =>
    rw [hsink] at hend
    obtain ⟨content, hcontent, hoffset⟩ := hend
    exact ⟨content, by rw [h place (by simp [place?, hsink]), hcontent], hoffset⟩
  | full => trivial
  | lost =>
    rw [hsink] at hend
    exact hend

/-- What has reached the disk is the content of the ledger's file. -/
theorem get?_of_place {ledger : Ledger} {disk : Disk} {place : Place} (hend : ledger.AtEnd disk)
    (hplace : ledger.place? = some place) :
    disk.get? place = some (.file (ledger.written disk)) := by
  unfold AtEnd at hend
  unfold place? at hplace
  unfold written
  cases hsink : ledger.sink with
  | full => simp [hsink] at hplace
  | lost => simp [hsink] at hplace
  | file there offset =>
    rw [hsink] at hend hplace
    obtain rfl : there = place := Option.some.inj hplace
    obtain ⟨content, hcontent, -⟩ := hend
    show disk.get? there = some (.file (disk.contentAt there))
    rw [hcontent, Disk.contentAt_of_get? hcontent]

theorem written_of_place?_eq_none {ledger : Ledger} (h : ledger.place? = none) (disk : Disk) :
    ledger.written disk = .empty := by
  unfold place? at h
  unfold written
  cases hsink : ledger.sink with
  | full => rfl
  | lost => rfl
  | file there offset => simp [hsink] at h

/-- What a step does that adds some bytes, and some lines, to the account.  The bytes come at
    its end, and no place but that of the ledger's file is touched. -/
structure Wrote (bytes : ByteArray) (lines : Nat) (before after : Ledger × Disk) : Prop where
  atEnd : after.1.AtEnd after.2
  account : after.1.account after.2 = before.1.account before.2 ++ bytes
  entries : after.1.entries = before.1.entries + lines
  path : after.1.path = before.1.path
  place : after.1.place? = before.1.place?
  full : after.1.sink = .full ↔ before.1.sink = .full
  elsewhere : ∀ place, some place ≠ before.1.place? → after.2.get? place = before.2.get? place

/-- What a refused step leaves: the full device took nothing. -/
structure Refused (before after : Ledger × Disk) : Prop where
  full : before.1.sink = .full
  still_full : after.1.sink = .full
  disk : ∀ place, after.2.get? place = before.2.get? place

/-- A step adds bytes to the account, or the full device refuses it. -/
def Accounts (bytes : ByteArray) (lines : Nat) (before : Ledger × Disk) :
    EStateM.Result Cause (Ledger × Disk) Unit → Prop
  | .ok () after => Wrote bytes lines before after
  | .error _ after => Refused before after

/-- Two steps have written the bytes of the first one, and behind them those of the second. -/
theorem Wrote.trans {first second : ByteArray} {m n : Nat} {x y z : Ledger × Disk}
    (h : Wrote first m x y) (h' : Wrote second n y z) : Wrote (first ++ second) (m + n) x z where
  atEnd := h'.atEnd
  account := by rw [h'.account, h.account, ByteArray.append_assoc]
  entries := by rw [h'.entries, h.entries, Nat.add_assoc]
  path := by rw [h'.path, h.path]
  place := by rw [h'.place, h.place]
  full := h'.full.trans h.full
  elsewhere := by
    intro place hne
    rw [h'.elsewhere place (by rw [h.place]; exact hne), h.elsewhere place hne]

/-- A step that is refused after others were not: on the full device those have not reached the
    disk. -/
theorem Wrote.refused {bytes : ByteArray} {lines : Nat} {x y z : Ledger × Disk}
    (h : Wrote bytes lines x y) (h' : Refused y z) : Refused x z where
  full := h.full.1 h'.full
  still_full := h'.still_full
  disk := by
    intro place
    have hplace : x.1.place? = none := by simp [place?, h.full.1 h'.full]
    rw [h'.disk, h.elsewhere place (by rw [hplace]; exact Option.some_ne_none _)]

/-- Steps that follow each other account for what they put together. -/
theorem Accounts.bind {first second : ByteArray} {m n : Nat} {before : Ledger × Disk}
    {step next : Writing Unit} (h : Accounts first m before (step before))
    (h' : ∀ after, step before = .ok () after → Wrote first m before after →
      Accounts second n after (next after)) :
    Accounts (first ++ second) (m + n) before ((step >>= fun _ => next) before) := by
  -- what is refused first is the end of it; what is refused later leaves the disk as it was
  cases hstep : step before with
  | error cause after =>
    rw [hstep] at h
    rw [run_bind_of_error hstep]
    exact h
  | ok _ after =>
    rw [hstep] at h
    have hwrote : Wrote first m before after := h
    have hnext := h' after hstep hwrote
    rw [run_bind_of_ok hstep]
    cases hresult : next after with
    | error cause last =>
      rw [hresult] at hnext
      exact hwrote.refused hnext
    | ok _ last =>
      rw [hresult] at hnext
      exact hwrote.trans hnext

/-! ## The steps

  From the sending of bytes up to the putting of a piece, each by those before it. -/

/-- The ledger as if nothing were in its buffer. -/
def drained (ledger : Ledger) : Ledger := { ledger with buffer := .empty }

theorem drained_eq_self {ledger : Ledger} (h : ledger.buffer = .empty) :
    ledger.drained = ledger := by
  rw [drained, ← h]

/-- Sending bytes adds them to what is on the disk, whatever the buffer holds. -/
theorem send_accounts {ledger : Ledger} {disk : Disk} (hend : ledger.AtEnd disk)
    (bytes : ByteArray) :
    match send bytes (ledger, disk) with
    | .ok () after =>
      Wrote bytes 0 (ledger.drained, disk) (after.1.drained, after.2) ∧
        after.1.buffer = ledger.buffer
    | .error _ after => Refused (ledger, disk) after := by
  unfold AtEnd at hend
  cases hsink : ledger.sink with
  | lost =>
    rw [hsink] at hend
    exact hend.elim
  | full =>
    by_cases hempty : bytes = .empty
    · subst hempty
      simp only [send, hsink, Disk.write]
      refine ⟨?_, rfl⟩
      exact {
        atEnd := trivial
        account := by simp [account, written, drained, hsink]
        entries := rfl
        path := rfl
        place := by simp [place?, drained, hsink]
        full := by simp [drained, hsink]
        elsewhere := fun _ _ => rfl }
    · have hfilled : bytes.isEmpty = false := by
        rw [Bool.eq_false_iff]
        intro hsize
        exact hempty (ByteArray.size_eq_zero_iff.1 (by simpa [ByteArray.isEmpty] using hsize))
      simp only [send, hsink, Disk.write, hfilled]
      exact ⟨hsink, hsink, fun _ => rfl⟩
  | file place offset =>
    rw [hsink] at hend
    obtain ⟨content, hcontent, hoffset⟩ := hend
    -- the offset is the size of the content, so what is written there is appended
    have hview : ∀ other, (disk.setContent place (content ++ bytes)).get? other =
        if place = other then some (.file (content ++ bytes)) else disk.get? other :=
      Disk.get?_setContent hcontent _
    simp only [send, hsink, Disk.write, hcontent, hoffset, Disk.overwrite_size, and_true]
    exact {
      atEnd := ⟨content ++ bytes, by rw [hview, if_pos rfl], by simp⟩
      account := by
        simp only [account, written, drained, hsink, ByteArray.append_empty,
          Disk.contentAt_of_get? hcontent]
        exact Disk.contentAt_of_get? (by rw [hview, if_pos rfl])
      entries := rfl
      path := rfl
      place := by simp [place?, drained, hsink]
      full := by simp [drained, hsink]
      elsewhere := by
        intro other hother
        rw [hview, if_neg]
        rintro rfl
        exact hother (by simp [place?, drained, hsink]) }

/-- An empty buffer is not sent. -/
theorem flush_eq (ledger : Ledger) (disk : Disk) : flush (ledger, disk) =
    if ledger.buffer.isEmpty then .ok () (ledger, disk)
    else match send ledger.buffer (ledger, disk) with
      | .ok () after => .ok () (after.1.drained, after.2)
      | .error cause after => .error cause after := by
  rw [flush, run_bind_of_ok run_get]
  by_cases hbuffer : ledger.buffer.isEmpty = true
  · simp only [hbuffer]
    rfl
  · simp only [hbuffer]
    cases hsend : send ledger.buffer (ledger, disk) with
    | error cause after => exact run_bind_of_error hsend
    | ok _ after => exact run_bind_of_ok hsend

/-- Flushing leaves the account as it is and the buffer empty. -/
theorem flush_accounts {ledger : Ledger} {disk : Disk} (hend : ledger.AtEnd disk) :
    match flush (ledger, disk) with
    | .ok () after => Wrote .empty 0 (ledger, disk) after ∧ after.1.buffer = .empty
    | .error _ after => Refused (ledger, disk) after := by
  rw [flush_eq]
  by_cases hempty : ledger.buffer.isEmpty = true
  · have hbuffer : ledger.buffer = .empty :=
      ByteArray.size_eq_zero_iff.1 (by simpa [ByteArray.isEmpty] using hempty)
    rw [if_pos hempty]
    exact ⟨⟨hend, by simp, rfl, rfl, rfl, Iff.rfl, fun _ _ => rfl⟩, hbuffer⟩
  · rw [if_neg hempty]
    have hsent := send_accounts hend ledger.buffer
    cases hsend : send ledger.buffer (ledger, disk) with
    | error cause after =>
      rw [hsend] at hsent
      exact hsent
    | ok _ after =>
      rw [hsend] at hsent
      obtain ⟨hwrote, -⟩ := hsent
      refine ⟨?_, rfl⟩
      exact {
        atEnd := hwrote.atEnd
        account := by
          rw [hwrote.account]
          simp [account, drained, written]
        entries := hwrote.entries
        path := hwrote.path
        place := hwrote.place
        full := hwrote.full
        elsewhere := hwrote.elsewhere }

/-- Keeping a piece in the buffer adds it to the account. -/
theorem keep_accounts {ledger : Ledger} {disk : Disk} (hend : ledger.AtEnd disk)
    (piece : ByteArray) : Accounts piece 0 (ledger, disk) (keep piece (ledger, disk)) where
  atEnd := hend
  account := by
    simp only [account, written]
    rw [ByteArray.append_assoc]
  entries := rfl
  path := rfl
  place := rfl
  full := Iff.rfl
  elsewhere := fun _ _ => rfl

/-- Sending past an empty buffer adds to the account. -/
theorem send_accounts_of_empty {ledger : Ledger} {disk : Disk} (hend : ledger.AtEnd disk)
    (hbuffer : ledger.buffer = .empty) (piece : ByteArray) :
    Accounts piece 0 (ledger, disk) (send piece (ledger, disk)) := by
  have hsent := send_accounts hend piece
  cases hsend : send piece (ledger, disk) with
  | error cause after =>
    rw [hsend] at hsent
    exact hsent
  | ok _ after =>
    rw [hsend] at hsent
    obtain ⟨hwrote, hkept⟩ := hsent
    rw [drained_eq_self hbuffer, drained_eq_self (hkept.trans hbuffer)] at hwrote
    exact hwrote

/-- The look at the buffer decides between four ways. -/
theorem put_eq (ledger : Ledger) (disk : Disk) (piece : ByteArray) : put piece (ledger, disk) =
    if piece.size < capacity - ledger.buffer.size then keep piece (ledger, disk)
    else if capacity - ledger.buffer.size < piece.size then
      (flush >>= fun _ => if capacity ≤ piece.size then send piece else keep piece) (ledger, disk)
    else if capacity ≤ piece.size then send piece (ledger, disk)
    else keep piece (ledger, disk) := by
  rw [put, run_bind_of_ok run_get]
  dsimp only
  split
  · rfl
  · split
    · rfl
    · split <;> rfl

/-- **Putting a piece adds it to the account**, wherever the end of the buffer falls.  In two of
    the four ways the piece is sent past the buffer; in both the buffer is empty by then, so the
    order is kept. -/
theorem put_accounts {ledger : Ledger} {disk : Disk} (hend : ledger.AtEnd disk)
    (piece : ByteArray) : Accounts piece 0 (ledger, disk) (put piece (ledger, disk)) := by
  rw [put_eq]
  split
  · exact keep_accounts hend piece
  · rename_i hroom
    split
    · -- the buffer is flushed first, so the piece meets an empty one
      have hflush := flush_accounts hend
      rw [← ByteArray.empty_append (b := piece), ← Nat.zero_add 0]
      refine Accounts.bind ?_ ?_
      · cases hresult : flush (ledger, disk) with
        | error cause after =>
          rw [hresult] at hflush
          exact hflush
        | ok _ after =>
          rw [hresult] at hflush
          exact hflush.1
      · intro after hresult hwrote
        rw [hresult] at hflush
        rw [ByteArray.empty_append]
        split
        · exact send_accounts_of_empty hwrote.atEnd hflush.2 piece
        · exact keep_accounts hwrote.atEnd piece
    · split
      · -- a piece as large as the room there is, and as the whole buffer: the buffer is empty
        have hbuffer : ledger.buffer = .empty := by
          have hcapacity : 0 < capacity := by decide
          rw [← ByteArray.size_eq_zero_iff]
          omega
        exact send_accounts_of_empty hend hbuffer piece
      · exact keep_accounts hend piece

/-! ## Lines

  A line is put as four pieces and then counted. -/

/-- A line of a ledger. -/
def line (file tag : String) : String := file ++ "\t" ++ tag ++ "\n"

/-- The text of a ledger with the given files and tags. -/
def text (lines : List (String × String)) : String :=
  lines.foldr (fun (file, tag) rest => line file tag ++ rest) ""

theorem text_append_singleton (lines : List (String × String)) (file tag : String) :
    text (lines ++ [(file, tag)]) = text lines ++ line file tag := by
  induction lines with
  | nil => simp [text]
  | cons first lines ih =>
    have hcons : ∀ rest, text (first :: rest) = line first.1 first.2 ++ text rest := fun _ => rfl
    rw [List.cons_append, hcons, hcons, ih, String.append_assoc]

/-- Without lines there is no text, and only then. -/
theorem toUTF8_text_eq_empty {lines : List (String × String)}
    (h : (text lines).toUTF8 = .empty) : lines = [] := by
  cases lines with
  | nil => rfl
  | cons first lines =>
    have hempty : text (first :: lines) = "" := String.toByteArray_inj.1 h
    have hlength := congrArg (fun text => text.toList.length) hempty
    have hcons : text (first :: lines) = line first.1 first.2 ++ text lines := rfl
    simp [hcons, line, String.toList_append] at hlength

/-- A line is its four pieces. -/
theorem toUTF8_line (file tag : String) :
    (line file tag).toUTF8 = file.toUTF8 ++ ("\t".toUTF8 ++ (tag.toUTF8 ++ "\n".toUTF8)) := by
  simp only [line, String.toUTF8_eq_toByteArray, String.toByteArray_append, ByteArray.append_assoc]

/-- **Putting a line adds it to the account and counts it.** -/
theorem putLine_accounts {ledger : Ledger} {disk : Disk} (hend : ledger.AtEnd disk)
    (file tag : String) :
    Accounts (line file tag).toUTF8 1 (ledger, disk) (putLine file tag (ledger, disk)) := by
  -- the count is a step of its own, which adds no bytes
  have hcount : ∀ state : Ledger × Disk, state.1.AtEnd state.2 → Accounts .empty 1 state
      (.ok () ({ state.1 with entries := state.1.entries + 1 }, state.2)) :=
    fun state hstate => ⟨hstate, by simp [account, written], rfl, rfl, rfl, Iff.rfl, fun _ _ => rfl⟩
  have hpieces : (line file tag).toUTF8 = file.toUTF8 ++ ("\t".toUTF8 ++
      (tag.toUTF8 ++ ("\n".toUTF8 ++ .empty))) := by
    rw [ByteArray.append_empty, toUTF8_line]
  have hlines : 1 = 0 + (0 + (0 + (0 + 1))) := rfl
  rw [hpieces, hlines]
  refine Accounts.bind (put_accounts hend _) fun _ _ hfile => ?_
  refine Accounts.bind (put_accounts hfile.atEnd _) fun _ _ htab => ?_
  refine Accounts.bind (put_accounts htab.atEnd _) fun _ _ htag => ?_
  refine Accounts.bind (put_accounts htag.atEnd _) fun _ _ hnewline => ?_
  exact hcount _ hnewline.atEnd

/-- **Adding a line.**  It is added to the account, or the full device refuses it. -/
theorem append_accounts {ledger : Ledger} {disk : Disk} (hend : ledger.AtEnd disk)
    (file tag : String) :
    match ledger.append disk file tag with
    | (.ok (), after) => Wrote (line file tag).toUTF8 1 (ledger, disk) after
    | (.error _, after) => Refused (ledger, disk) after := by
  have hline := putLine_accounts hend file tag
  rw [append]
  cases hresult : putLine file tag (ledger, disk) with
  | error cause after =>
    rw [hresult] at hline
    exact hline
  | ok _ after =>
    rw [hresult] at hline
    exact hline

/-! ## Closing

  The buffer is sent for the last time; on the full device that is refused if there is anything
  in it. -/

/-- **Closing leaves the whole account on the disk**, or the full device refuses it.  What was
    in the buffer is sent behind what has been written, so the file holds all that was ever put. -/
theorem finish_accounts {ledger : Ledger} {disk : Disk} (hend : ledger.AtEnd disk) :
    match ledger.finish disk with
    | (.ok entries, after) =>
      entries = ledger.entries ∧
      (∀ place, some place ≠ ledger.place? → after.get? place = disk.get? place) ∧
      (∀ place, ledger.place? = some place →
        after.get? place = some (.file (ledger.account disk))) ∧
      (ledger.place? = none → ledger.account disk = .empty)
    | (.error _, after) => ledger.sink = .full ∧ ∀ place, after.get? place = disk.get? place := by
  have hflush := flush_accounts hend
  rw [finish]
  cases hresult : flush (ledger, disk) with
  | error cause after =>
    rw [hresult] at hflush
    exact ⟨hflush.full, hflush.disk⟩
  | ok _ after =>
    rw [hresult] at hflush
    obtain ⟨hwrote, hbuffer⟩ := hflush
    -- the buffer is empty now, so the account is what is on the disk
    have haccount : ledger.account disk = after.1.written after.2 := by
      have h := hwrote.account
      rw [ByteArray.append_empty, account, hbuffer, ByteArray.append_empty] at h
      exact h.symm
    refine ⟨rfl, hwrote.elsewhere, ?_, ?_⟩
    · intro place hplace
      rw [haccount]
      exact get?_of_place hwrote.atEnd (hwrote.place.trans hplace)
    · intro hplace
      rw [haccount]
      exact written_of_place?_eq_none (hwrote.place.trans hplace) after.2

/-- A ledger in a file can be closed, and its file then holds the whole account. -/
theorem finish_of_place {ledger : Ledger} {disk : Disk} {place : Place} (hend : ledger.AtEnd disk)
    (hplace : ledger.place? = some place) :
    ∃ after, ledger.finish disk = (.ok ledger.entries, after) ∧
      after.get? place = some (.file (ledger.account disk)) ∧
      ∀ other, other ≠ place → after.get? other = disk.get? other := by
  have hclosed := finish_accounts hend
  cases hfinish : ledger.finish disk with
  | mk outcome after =>
    rw [hfinish] at hclosed
    cases outcome with
    | error failure =>
      rw [place?, hclosed.1] at hplace
      cases hplace
    | ok entries =>
      obtain ⟨rfl, helsewhere, hfile, -⟩ := hclosed
      refine ⟨after, rfl, hfile place hplace, ?_⟩
      intro other hother
      apply helsewhere
      rw [hplace]
      exact fun hsame => hother (Option.some.inj hsame)

end Ledger

end Thicket
