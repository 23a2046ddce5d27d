/-
  Reading the same arguments with the quiet flag in front.

  A draft in which the flag is raised already (`Draft.hush`) differs in nothing else, and no step
  of the reader looks at the flag but the one that raises it.  So as long as no argument gives the
  flag (`GivesQuiet`) the reader refuses the same, for the same reason, or comes to a draft that
  differs in the flag only (`takeAll_hush`).

  Raising the flag is a map on drafts, and the statement about each step is that it commutes with
  the map.  The proofs go down the reader: from all arguments to one, to a word or a cluster, to a
  switch, and to a field of the draft.  What an argument that does not give the flag may still be
  is anything: it can be refused, it can be the value of a switch before it, and it can have the
  letter behind one that takes a value.
-/
import Thicket.Proofs.Command.Spelling

namespace Thicket.Command

/-! ## Arguments that give the flag

  A cluster gives it only where no letter before it takes the rest as its value. -/

/-- The argument gives the quiet flag: by its word, or in a cluster in which only flags stand before
    it. -/
def GivesQuiet (argument : String) : Prop :=
  argument = "--" ++ Flag.quiet.word ∨ ∃ (flags : List Flag) (rest : String),
    argument = cluster (flags.map Switch.flag ++ [.flag .quiet]) ++ rest

/-- Such an argument has a dash in front, and then another one or the letter of a flag. -/
theorem GivesQuiet.exists_toList {argument : String} (h : GivesQuiet argument) :
    ∃ c rest, argument.toList = '-' :: c :: rest ∧ c ∈ ['-', 'u', 'q'] := by
  rcases h with rfl | ⟨flags, rest, rfl⟩
  · exact ⟨'-', "quiet".toList, by decide, by decide⟩
  · cases flags with
    | nil => exact ⟨'q', rest.toList, by simp [cluster, Switch.letter, Flag.letter], by decide⟩
    | cons flag flags =>
      refine ⟨flag.letter, (flags.map Flag.letter ++ 'q' :: rest.toList), ?_, ?_⟩
      · simp [cluster, Switch.letter, Flag.letter, Function.comp_def]
      · cases flag <;> decide

/-- What changes the result of the first step alike changes that of the sequence. -/
theorem bind_map_except {ε α β : Type} {result : Except ε α} {f : α → α} {g : β → β}
    {next : α → Except ε β} (h : ∀ a, next (f a) = (next a).map g) :
    result.map f >>= next = (result >>= next).map g := by
  cases result with
  | error reason => rfl
  | ok a => exact h a

/-! ## Drafts

  Each of the three things that are done to a draft goes through the map. -/

namespace Draft

/-- The draft with the quiet flag raised. -/
def hush (draft : Draft) : Draft := { draft with quiet := true }

theorem set_hush (draft : Draft) (which : Valued) (text : String) :
    draft.hush.set which text = (draft.set which text).map hush := by
  symm
  cases which <;> exact (comp_map (f := Except Refusal) _ hush _).symm

theorem raise_hush (draft : Draft) {which : Flag} (h : which ≠ .quiet) :
    draft.hush.raise which = (draft.raise which).map hush := by
  cases which with
  | untaggedFilesDisallowed =>
    rw [raise, raise]
    cases hraised : draft.untaggedFilesDisallowed <;> simp [hush, hraised, Except.map]
  | quiet => exact absurd rfl h

/-- Completing the draft hands the flag on and does nothing else with it. -/
theorem complete_hush (draft : Draft) :
    draft.hush.complete =
      draft.complete.map fun invocation => { invocation with quiet := true } := by
  rw [complete, complete]
  cases hname : draft.name <;> simp [hush, hname, Except.map]

end Draft

/-! ## The reader

  A switch that waits for its value is the same in both readers, so both take the next argument
  in the same way. -/

namespace Reader

/-- The reader with the quiet flag raised. -/
def hush (reader : Reader) : Reader := { reader with draft := reader.draft.hush }

theorem settle_hush (reader : Reader) : reader.hush.settle = reader.settle.map Draft.hush := by
  obtain ⟨draft, pending⟩ := reader
  cases pending with
  | none => rfl
  | some pending =>
    obtain ⟨which, value⟩ := pending
    cases value with
    | none => rfl
    | some value => exact draft.set_hush which value

theorem takeAlone_hush (reader : Reader) {switch : Switch} (h : switch ≠ .flag .quiet) :
    reader.hush.takeAlone switch = (reader.takeAlone switch).map hush := by
  rw [takeAlone_eq_settle, settle_hush, takeAlone_eq_settle reader]
  refine bind_map_except fun draft => ?_
  cases switch with
  | valued which => rfl
  | flag which =>
    rw [takeAlone_flag, takeAlone_flag, Draft.raise_hush draft (fun heq => h (heq ▸ rfl))]
    exact bind_map_except fun _ => rfl
  | help => rfl
  | version => rfl

theorem setAttached_hush (reader : Reader) (which : Valued) (text : String) :
    reader.hush.setAttached which text = (reader.setAttached which text).map hush := by
  rw [setAttached_eq_settle, settle_hush, setAttached_eq_settle reader]
  refine bind_map_except fun draft => ?_
  rw [setAttached_none, setAttached_none, Draft.set_hush]
  exact bind_map_except fun _ => rfl

/-- A word, if it is not that of the flag; with a value attached even that is refused alike. -/
theorem takeWord_hush (reader : Reader) {w : String} {value : Option String}
    (h : value = none → w ≠ Flag.quiet.word) :
    reader.hush.takeWord w value = (reader.takeWord w value).map hush := by
  cases hword : Switch.ofWord? w with
  | none =>
    simp only [takeWord, hword]
    rfl
  | some switch =>
    obtain rfl := Switch.ofWord?_eq_some_iff.1 hword
    cases value with
    | none =>
      rw [takeWord_alone, takeWord_alone]
      exact reader.takeAlone_hush fun heq => h rfl (heq ▸ rfl)
    | some text =>
      rw [takeWord_attached, takeWord_attached]
      cases switch with
      | valued which => exact reader.setAttached_hush which text
      | _ => rfl

/-- A cluster, unless the letter of the flag stands in it behind flags only. -/
theorem takeLetters_hush (reader : Reader) {cs : List Char}
    (h : ∀ (flags : List Flag) rest,
      cs ≠ (flags.map Switch.flag).map Switch.letter ++ Flag.quiet.letter :: rest) :
    reader.hush.takeLetters cs = (reader.takeLetters cs).map hush := by
  -- along the letters; a flag that is not the quiet one is taken, and the rest begins like this
  -- again
  induction cs generalizing reader with
  | nil => rfl
  | cons c cs ih =>
    cases hletter : Switch.ofLetter? c with
    | none =>
      simp only [takeLetters, hletter]
      rfl
    | some switch =>
      obtain rfl := Switch.ofLetter?_eq_some_iff.1 hletter
      have halone : switch ≠ .flag .quiet := by
        rintro rfl
        exact h [] cs rfl
      cases switch with
      | valued which =>
        simp only [takeLetters, hletter]
        by_cases hrest : cs.isEmpty = true
        · rw [if_pos hrest, if_pos hrest]
          exact reader.takeAlone_hush halone
        · rw [if_neg hrest, if_neg hrest]
          exact reader.setAttached_hush which _
      | flag which =>
        simp only [takeLetters, hletter]
        rw [reader.takeAlone_hush halone]
        refine bind_map_except fun reader => ih reader ?_
        rintro flags rest rfl
        exact h (which :: flags) rest rfl
      | help =>
        simp only [takeLetters, hletter]
        rw [reader.takeAlone_hush halone, takeAlone_eq_settle]
        cases reader.settle <;> rfl
      | version =>
        simp only [takeLetters, hletter]
        rw [reader.takeAlone_hush halone, takeAlone_eq_settle]
        cases reader.settle <;> rfl

/-- A text that is no switch is a value in both, or unknown in both. -/
theorem takePlain_hush (reader : Reader) (text : String) :
    reader.hush.takePlain text = (reader.takePlain text).map hush := by
  obtain ⟨draft, pending⟩ := reader
  cases pending with
  | none => rfl
  | some pending =>
    obtain ⟨which, value⟩ := pending
    cases value <;> rfl

theorem take_hush (reader : Reader) {argument : String} (h : ¬ GivesQuiet argument) :
    reader.hush.take argument = (reader.take argument).map hush := by
  have hspelling := Token.spelling_ofArgument argument
  rw [take, take]
  cases htoken : Token.ofArgument argument with
  | endMark => rfl
  | word w value =>
    refine reader.takeWord_hush ?_
    rintro rfl rfl
    rw [htoken] at hspelling
    exact h (.inl hspelling.symm)
  | letters cs =>
    refine reader.takeLetters_hush ?_
    rintro flags rest rfl
    rw [htoken] at hspelling
    refine h (.inr ⟨flags, String.ofList rest, hspelling.symm.trans ?_⟩)
    rw [← String.toList_inj]
    simp [Token.spelling, cluster, Switch.letter]
  | plain text => exact reader.takePlain_hush text

/-- **Raising the quiet flag beforehand changes nothing else.** -/
theorem takeAll_hush (reader : Reader) {arguments : List String}
    (h : ∀ argument ∈ arguments, ¬ GivesQuiet argument) :
    reader.hush.takeAll arguments = (reader.takeAll arguments).map Draft.hush := by
  induction arguments generalizing reader with
  | nil => exact reader.settle_hush
  | cons argument rest ih =>
    obtain ⟨hargument, hrest⟩ := List.forall_mem_cons.1 h
    -- behind an end mark both readers end, or both refuse what follows
    by_cases hmark : argument = "--"
    · subst hmark
      cases rest with
      | nil => exact reader.settle_hush
      | cons _ _ => rfl
    · rw [takeAll_cons _ hmark, takeAll_cons _ hmark, reader.take_hush hargument]
      exact bind_map_except fun reader => ih reader hrest

end Reader

/-- Arguments none of which gives the quiet flag ask for the same with the flag in front, but
    quietly. -/
theorem ofArguments_quiet {arguments : List String} {first : String}
    (hfirst : first = "-q" ∨ first = "--quiet")
    (h : ∀ argument ∈ arguments, ¬ GivesQuiet argument) :
    Invocation.ofArguments (first :: arguments) =
      (Invocation.ofArguments arguments).map
        fun invocation => { invocation with quiet := true } := by
  have hstart : Reader.takeAll ⟨{}, none⟩ (first :: arguments) =
      Reader.takeAll (Reader.hush ⟨{}, none⟩) arguments := by
    rcases hfirst with rfl | rfl <;> rfl
  rw [Invocation.ofArguments, hstart, Reader.takeAll_hush _ h]
  exact bind_map_except Draft.complete_hush

end Thicket.Command
