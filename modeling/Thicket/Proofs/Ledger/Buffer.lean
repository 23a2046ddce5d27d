/-
  What a ledger keeps, whatever becomes of its lines.

  The account tells of the lines that are taken.  A line that is refused leaves its mark too:
  pieces of it may be in the buffer, and stay there.  `Leaves` says what holds of every step,
  taken or refused:

  1. the buffer is never fuller than it can be;
  2. a line is counted only once it is complete;
  3. the full device takes nothing out of the buffer and leaves the disk as it is.

  Steps compose (`LeavesAs.bind`), so this too comes down to one lemma for each step, up to the
  adding of a line (`append_leaves`).

  The last of the three has a consequence.  Whoever has had a line taken on the full device has it
  in the buffer (`Stuck`), and the device refuses to take the buffer when the ledger is closed
  (`finish_of_stuck`).  A line has at least the bytes of its tab and its end, so a taken line is
  never lost among empty pieces.
-/
import Thicket.Proofs.Disk.Opened
import Thicket.Proofs.Ledger.Account

namespace Thicket

namespace Ledger

variable {ledger : Ledger} {disk : Disk}

/-! ## What steps leave

  Only the counting of a line counts, and it is the last step of a line; all others leave the
  count. -/

/-- What a step leaves behind that has counted so many lines. -/
structure Leaves (lines : Nat) (before after : Ledger × Disk) : Prop where
  path : after.1.path = before.1.path
  home : after.2.home = before.2.home
  entries : after.1.entries = before.1.entries + lines
  bounded : before.1.buffer.size ≤ capacity → after.1.buffer.size ≤ capacity
  full : before.1.sink = .full →
    after.1.sink = .full ∧ after.2 = before.2 ∧ before.1.buffer.size ≤ after.1.buffer.size

theorem Leaves.refl (state : Ledger × Disk) : Leaves 0 state state :=
  ⟨rfl, rfl, rfl, fun h => h, fun h => ⟨h, rfl, Nat.le_refl _⟩⟩

theorem Leaves.trans {m n : Nat} {x y z : Ledger × Disk} (h : Leaves m x y) (h' : Leaves n y z) :
    Leaves (m + n) x z where
  path := h'.path.trans h.path
  home := h'.home.trans h.home
  entries := by rw [h'.entries, h.entries, Nat.add_assoc]
  bounded := fun hx => h'.bounded (h.bounded hx)
  full := by
    intro hx
    obtain ⟨hy, hsame, hgrown⟩ := h.full hx
    obtain ⟨hz, hsame', hgrown'⟩ := h'.full hy
    exact ⟨hz, hsame'.trans hsame, Nat.le_trans hgrown hgrown'⟩

/-- A step that succeeds has counted so many lines, and one that is refused none. -/
def LeavesAs (lines : Nat) (before : Ledger × Disk) :
    EStateM.Result Cause (Ledger × Disk) Unit → Prop
  | .ok () after => Leaves lines before after
  | .error _ after => Leaves 0 before after

/-- Of steps that follow each other only the last one may count. -/
theorem LeavesAs.bind {lines : Nat} {before : Ledger × Disk} {step next : Writing Unit}
    (h : LeavesAs 0 before (step before))
    (h' : ∀ after, step before = .ok () after → LeavesAs lines after (next after)) :
    LeavesAs lines before ((step >>= fun _ => next) before) := by
  cases hstep : step before with
  | error cause after =>
    rw [hstep] at h
    rw [run_bind_of_error hstep]
    exact h
  | ok _ after =>
    have hnext := h' after hstep
    rw [hstep] at h
    rw [run_bind_of_ok hstep]
    cases hresult : next after with
    | error cause last =>
      rw [hresult] at hnext
      exact h.trans hnext
    | ok _ last =>
      rw [hresult] at hnext
      have hboth : Leaves (0 + lines) before last := Leaves.trans h hnext
      rw [Nat.zero_add] at hboth
      exact hboth

/-! ## The steps

  The same steps as for the account, now with their refusals. -/

/-- Sending moves the end of the file, if anything. -/
theorem send_eq (ledger : Ledger) (disk : Disk) (bytes : ByteArray) :
    (∃ sink after, disk.write ledger.sink bytes = .ok (sink, after) ∧
        send bytes (ledger, disk) = .ok () ({ ledger with sink }, after)) ∨
      ∃ cause, send bytes (ledger, disk) = .error cause (ledger, disk) := by
  cases hwrite : disk.write ledger.sink bytes with
  | error cause =>
    right
    exact ⟨cause, by simp only [send, hwrite]⟩
  | ok written =>
    left
    exact ⟨written.1, written.2, rfl, by simp only [send, hwrite]⟩

/-- Sending goes past the buffer and leaves it as it is. -/
theorem send_leaves (ledger : Ledger) (disk : Disk) (bytes : ByteArray) :
    LeavesAs 0 (ledger, disk) (send bytes (ledger, disk)) := by
  rcases send_eq ledger disk bytes with ⟨sink, after, hwrite, hsend⟩ | ⟨cause, hsend⟩
  · rw [hsend]
    refine ⟨rfl, Disk.home_of_write hwrite, rfl, fun hbounded => hbounded, ?_⟩
    intro hsink
    have hfull : ledger.sink = .full := hsink
    rw [hfull] at hwrite
    obtain ⟨rfl, rfl, -⟩ := Disk.eq_of_write_full hwrite
    exact ⟨rfl, rfl, Nat.le_refl _⟩
  · rw [hsend]
    exact Leaves.refl _

/-- Flushing empties the buffer if the bytes are taken, and leaves it if not. -/
theorem flush_leaves (ledger : Ledger) (disk : Disk) :
    LeavesAs 0 (ledger, disk) (flush (ledger, disk)) ∧
      ∀ after, flush (ledger, disk) = .ok () after → after.1.buffer.size = 0 := by
  rw [flush_eq]
  by_cases hempty : ledger.buffer.isEmpty = true
  · rw [if_pos hempty]
    refine ⟨Leaves.refl _, ?_⟩
    intro after hafter
    cases hafter
    simpa [ByteArray.isEmpty] using hempty
  · rw [if_neg hempty]
    rcases send_eq ledger disk ledger.buffer with ⟨sink, after, hwrite, hsend⟩ | ⟨cause, hsend⟩
    · rw [hsend]
      refine ⟨⟨rfl, Disk.home_of_write hwrite, rfl, fun _ => Nat.zero_le _, ?_⟩, ?_⟩
      · -- what is in the buffer is not taken by the full device
        intro hsink
        have hfull : ledger.sink = .full := hsink
        rw [hfull] at hwrite
        exact absurd (Disk.eq_of_write_full hwrite).2.2 hempty
      · intro last hlast
        cases hlast
        rfl
    · rw [hsend]
      refine ⟨Leaves.refl _, ?_⟩
      intro after hafter
      cases hafter

/-- A piece is kept where there is room for it. -/
theorem keep_leaves {piece : ByteArray}
    (hroom : ledger.buffer.size ≤ capacity → ledger.buffer.size + piece.size ≤ capacity) :
    LeavesAs 0 (ledger, disk) (keep piece (ledger, disk)) where
  path := rfl
  home := rfl
  entries := rfl
  bounded := by
    intro hbounded
    show (ledger.buffer ++ piece).size ≤ capacity
    rw [ByteArray.size_append]
    exact hroom hbounded
  full := by
    intro hsink
    refine ⟨hsink, rfl, ?_⟩
    show ledger.buffer.size ≤ (ledger.buffer ++ piece).size
    rw [ByteArray.size_append]
    omega

/-- **Putting a piece never fills the buffer beyond its end**, wherever the piece begins. -/
theorem put_leaves (state : Ledger × Disk) (piece : ByteArray) :
    LeavesAs 0 state (put piece state) := by
  obtain ⟨ledger, disk⟩ := state
  rw [put_eq]
  split
  · apply keep_leaves
    omega
  · rename_i hroom
    split
    · obtain ⟨hflush, hempty⟩ := flush_leaves ledger disk
      refine LeavesAs.bind hflush ?_
      intro after hafter
      have hnothing := hempty after hafter
      split
      · exact send_leaves after.1 after.2 piece
      · apply keep_leaves
        omega
    · split
      · exact send_leaves ledger disk piece
      · -- the piece fits exactly
        apply keep_leaves
        omega

/-- **A line is counted once all its pieces are put**, and not before. -/
theorem putLine_leaves (state : Ledger × Disk) (file tag : String) :
    LeavesAs 1 state (putLine file tag state) := by
  have hcount : ∀ state : Ledger × Disk, LeavesAs 1 state
      (.ok () ({ state.1 with entries := state.1.entries + 1 }, state.2)) :=
    fun state => ⟨rfl, rfl, rfl, fun h => h, fun h => ⟨h, rfl, Nat.le_refl _⟩⟩
  refine LeavesAs.bind (put_leaves _ _) fun _ _ => ?_
  refine LeavesAs.bind (put_leaves _ _) fun _ _ => ?_
  refine LeavesAs.bind (put_leaves _ _) fun _ _ => ?_
  exact LeavesAs.bind (put_leaves _ _) fun after _ => hcount after

/-- **Adding a line counts it if it is taken**, and leaves the count as it was if it is refused. -/
theorem append_leaves (ledger : Ledger) (disk : Disk) (file tag : String) :
    match ledger.append disk file tag with
    | (.ok (), after) => Leaves 1 (ledger, disk) after
    | (.error _, after) => Leaves 0 (ledger, disk) after := by
  have hline := putLine_leaves (ledger, disk) file tag
  rw [append]
  cases hresult : putLine file tag (ledger, disk) with
  | error cause after =>
    rw [hresult] at hline
    exact hline
  | ok _ after =>
    rw [hresult] at hline
    exact hline

/-! ## On the full device

  The device takes the empty text and nothing else. -/

/-- The ledger is on the full device, and lines that were taken are still in its buffer. -/
def Stuck (ledger : Ledger) : Prop :=
  ledger.sink = .full ∧ (0 < ledger.entries → 0 < ledger.buffer.size)

theorem size_line_pos (file tag : String) : 0 < (line file tag).toUTF8.size := by
  rw [toUTF8_line, ByteArray.size_append, ByteArray.size_append]
  have htab : 0 < "\t".toUTF8.size := by decide
  omega

/-- **A ledger stays stuck**, whether a line is taken or refused. -/
theorem Stuck.append (h : ledger.Stuck) (disk : Disk) (file tag : String) :
    (ledger.append disk file tag).2.1.Stuck := by
  obtain ⟨hsink, hheld⟩ := h
  have hend : ledger.AtEnd disk := by
    rw [AtEnd, hsink]
    trivial
  have hleaves := append_leaves ledger disk file tag
  have haccount := append_accounts hend file tag
  cases hresult : ledger.append disk file tag with
  | mk outcome after =>
    rw [hresult] at hleaves haccount
    cases outcome with
    | error failure =>
      -- what was in the buffer is still there
      have hkept : Leaves 0 (ledger, disk) after := hleaves
      obtain ⟨hfull, -, hgrown⟩ := hkept.full hsink
      have hentries : after.1.entries = ledger.entries := hkept.entries
      refine ⟨hfull, ?_⟩
      show 0 < after.1.entries → 0 < after.1.buffer.size
      intro hpos
      exact Nat.lt_of_lt_of_le (hheld (hentries ▸ hpos)) hgrown
    | ok _ =>
      -- the account of the device is the buffer, and now the line is in it
      have hwrote : Wrote (line file tag).toUTF8 1 (ledger, disk) after := haccount
      have hfull := hwrote.full.2 hsink
      have hbuffer := congrArg ByteArray.size hwrote.account
      simp only [account, written, hsink, hfull, ByteArray.empty_append,
        ByteArray.size_append] at hbuffer
      have hline := size_line_pos file tag
      refine ⟨hfull, fun _ => ?_⟩
      show 0 < after.1.buffer.size
      omega

theorem send_of_full (hsink : ledger.sink = .full) (disk : Disk) {bytes : ByteArray}
    (hbytes : ¬ bytes.isEmpty = true) :
    send bytes (ledger, disk) = .error .noSpace (ledger, disk) := by
  simp only [send, hsink, Disk.write, if_neg hbytes]

/-- A line that begins with a piece as large as the buffer is refused at once, and nothing of it is
    left behind. -/
theorem append_of_full (hsink : ledger.sink = .full) (hbuffer : ledger.buffer = .empty)
    (disk : Disk) {file : String} (hfile : capacity ≤ file.toUTF8.size) (tag : String) :
    ledger.append disk file tag =
      (.error (.storage .writeLedger ledger.path .noSpace), ledger, disk) := by
  have hbytes : ¬ file.toUTF8.isEmpty = true := by
    have hcapacity : 0 < capacity := by decide
    rw [ByteArray.isEmpty, beq_iff_eq]
    omega
  have hsend := send_of_full hsink disk hbytes
  have hput : put file.toUTF8 (ledger, disk) = .error .noSpace (ledger, disk) := by
    have hflush : flush (ledger, disk) = .ok () (ledger, disk) := by
      rw [flush_eq, hbuffer]
      rfl
    rw [put_eq, hbuffer, ByteArray.size_empty, if_neg (by omega), if_pos hfile]
    split
    · exact (run_bind_of_ok hflush).trans hsend
    · exact hsend
  rw [append, putLine, run_bind_of_error hput]

/-- The full device takes an empty buffer and no other. -/
theorem finish_of_full (hsink : ledger.sink = .full) (disk : Disk) :
    ledger.finish disk =
      if ledger.buffer.isEmpty then (.ok ledger.entries, disk)
      else (.error (.storage .flushLedger ledger.path .noSpace), disk) := by
  rw [finish, flush_eq]
  by_cases hempty : ledger.buffer.isEmpty = true
  · simp only [if_pos hempty]
  · simp only [if_neg hempty, send_of_full hsink disk hempty]

/-- **Closing a stuck ledger** succeeds only if no line was ever taken. -/
theorem finish_of_stuck (h : ledger.Stuck) (disk : Disk) :
    ledger.finish disk = (.ok 0, disk) ∧ ledger.entries = 0 ∨
      ledger.finish disk = (.error (.storage .flushLedger ledger.path .noSpace), disk) := by
  obtain ⟨hsink, hheld⟩ := h
  rw [finish_of_full hsink]
  by_cases hempty : ledger.buffer.isEmpty = true
  · have hsize : ledger.buffer.size = 0 := by simpa [ByteArray.isEmpty] using hempty
    have hnone : ledger.entries = 0 := by
      rcases Nat.eq_zero_or_pos ledger.entries with hzero | hpos
      · exact hzero
      · have := hheld hpos
        omega
    rw [if_pos hempty, hnone]
    exact Or.inl ⟨rfl, rfl⟩
  · rw [if_neg hempty]
    exact Or.inr rfl

end Ledger

end Thicket
