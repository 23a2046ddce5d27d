/-
  Which argument lists say what.

  The reader takes arguments one by one and keeps a draft of what they have said, with perhaps a
  switch that waits for its value.  Beside it stands a grammar, in which a list of arguments
  spells a list of clauses: this switch has that value, this flag is raised.  Here the two are
  shown to agree.

  1. **Grammar** — a well-formed list is a sequence of clauses, each of which gives a switch its
     value or raises a flag (`Spells`).  An argument either says all of its clauses itself
     (`Complete`), or it leaves the last one open and the next argument is the value (`Open`).
  2. **One argument** — a reader with nothing pending takes an argument if and only if the grammar
     has it and the draft takes what it says (`take_eq_ok_iff`).  For letters that comes from
     cutting off the flags at the front (`takeLetters_flags`).
  3. **All arguments** — a reader that has met the value it waited for is as good as one that has
     set it already (`take_met`).  So the reader comes to the end of exactly those lists that the
     grammar has and whose clauses the draft takes (`takeAll_eq_ok_iff`).

  The crux is the delay in the third part.  The reader sets a switch only when the argument behind
  its value is recognised, for then it knows which of two refusals comes first.  For lists that
  are not refused the delay makes no difference; this is what `settle` and the lemmas about it
  say.

  What clauses mean is left open here, and whether they go together: that is asked of the draft.
-/
import Thicket.Command.Arguments
import Mathlib.Data.List.TakeWhile

namespace Thicket.Command

/-! ## Names of switches

  Nine switches take a value and four do not; each has a letter and a word. -/

/-- The letter of a switch with a value. -/
def Valued.letter : Valued → Char
  | name => 'n'
  | seed => 's'
  | depth => 'd'
  | branchFactor => 'b'
  | maxFiles => 'f'
  | maxFileSize => 'z'
  | maxTags => 't'
  | tagDensity => 'p'
  | root => 'r'

/-- The word of a switch with a value. -/
def Valued.word : Valued → String
  | name => "name"
  | seed => "seed"
  | depth => "depth"
  | branchFactor => "branch-factor"
  | maxFiles => "max-files"
  | maxFileSize => "max-filesize"
  | maxTags => "max-tags"
  | tagDensity => "tag-density"
  | root => "root"

/-- The letter of a flag. -/
def Flag.letter : Flag → Char
  | untaggedFilesDisallowed => 'u'
  | quiet => 'q'

/-- The word of a flag. -/
def Flag.word : Flag → String
  | untaggedFilesDisallowed => "untagged-files-disallowed"
  | quiet => "quiet"

namespace Switch

/-- The letter of a switch. -/
def letter : Switch → Char
  | valued which => which.letter
  | flag which => which.letter
  | help => 'h'
  | version => 'V'

/-- The word of a switch. -/
def word : Switch → String
  | valued which => which.word
  | flag which => which.word
  | help => "help"
  | version => "version"

/-- The table has every switch under its names. -/
theorem names_of_mem_all : ∀ entry ∈ all, entry.2 = (entry.1.letter, entry.1.word) := by
  decide

theorem ofLetter?_eq_some_iff {c : Char} {switch : Switch} :
    ofLetter? c = some switch ↔ c = switch.letter := by
  constructor
  · intro h
    obtain ⟨entry, hfind, rfl⟩ := Option.map_eq_some_iff.1 h
    have hletter := List.find?_some hfind
    change (entry.2.1 == c) = true at hletter
    rw [names_of_mem_all entry (List.mem_of_find?_eq_some hfind)] at hletter
    exact (beq_iff_eq.1 hletter).symm
  · rintro rfl
    rcases switch with (_ | _ | _ | _ | _ | _ | _ | _ | _) | (_ | _) | _ | _ <;> rfl

theorem ofWord?_eq_some_iff {w : String} {switch : Switch} :
    ofWord? w = some switch ↔ w = switch.word := by
  constructor
  · intro h
    obtain ⟨entry, hfind, rfl⟩ := Option.map_eq_some_iff.1 h
    have hword := List.find?_some hfind
    change (entry.2.2 == w) = true at hword
    rw [names_of_mem_all entry (List.mem_of_find?_eq_some hfind)] at hword
    exact (beq_iff_eq.1 hword).symm
  · rintro rfl
    rcases switch with (_ | _ | _ | _ | _ | _ | _ | _ | _) | (_ | _) | _ | _ <;> decide

/-- No letter is a dash, so a cluster is not taken for a word. -/
theorem letter_ne_dash (switch : Switch) : switch.letter ≠ '-' := by
  rcases switch with (_ | _ | _ | _ | _ | _ | _ | _ | _) | (_ | _) | _ | _ <;> decide

/-- No word has an equals sign in it, so what is cut off behind one is the value. -/
theorem equals_notMem_word (switch : Switch) : '=' ∉ switch.word.toList := by
  rcases switch with (_ | _ | _ | _ | _ | _ | _ | _ | _) | (_ | _) | _ | _ <;> decide

/-- No word is empty, so two dashes alone are the end mark. -/
theorem word_ne_empty (switch : Switch) : switch.word ≠ "" := by
  rcases switch with (_ | _ | _ | _ | _ | _ | _ | _ | _) | (_ | _) | _ | _ <;> decide

end Switch

/-! ## Grammar

  A value may be attached or be the next argument.  In a cluster it is attached to the last
  letter, with or without an equals sign; without one it must not begin with such a sign, which
  would be dropped. -/

/-- One thing that arguments say. -/
inductive Clause where
  /-- A switch has a value. -/
  | value (which : Valued) (text : String)
  /-- A flag is raised. -/
  | flag (which : Flag)
deriving DecidableEq, Repr

/-- Switches by their letters, in one argument. -/
def cluster (switches : List Switch) : String :=
  "-" ++ String.ofList (switches.map Switch.letter)

/-- An argument that says its clauses all by itself.  There is one constructor for each way of
    writing: a flag by its word, a value behind the word and an equals sign, and a cluster of
    letters, with no value, with one behind an equals sign, or with one that follows the last
    letter at once. -/
inductive Complete : String → List Clause → Prop where
  | word (which : Flag) : Complete ("--" ++ which.word) [.flag which]
  | wordEquals (which : Valued) (text : String) :
      Complete ("--" ++ which.word ++ "=" ++ text) [.value which text]
  | letters (flags : List Flag) (hne : flags ≠ []) :
      Complete (cluster (flags.map .flag)) (flags.map .flag)
  | lettersEquals (flags : List Flag) (which : Valued) (text : String) :
      Complete (cluster (flags.map .flag ++ [.valued which]) ++ "=" ++ text)
        (flags.map .flag ++ [.value which text])
  | lettersValue (flags : List Flag) (which : Valued) (text : String) (hne : text ≠ "")
      (hequals : ∀ rest, text.toList ≠ '=' :: rest) :
      Complete (cluster (flags.map .flag ++ [.valued which]) ++ text)
        (flags.map .flag ++ [.value which text])

/-- An argument that raises flags and ends with a switch whose value is still to come. -/
inductive Open : String → List Flag → Valued → Prop where
  | word (which : Valued) : Open ("--" ++ which.word) [] which
  | letters (flags : List Flag) (which : Valued) :
      Open (cluster (flags.map .flag ++ [.valued which])) flags which

/-- What can be the value of the switch before it: a dash alone, or what does not begin with one. -/
def IsFree (text : String) : Prop := text = "-" ∨ ∀ rest, text.toList ≠ '-' :: rest

/-- The arguments say the clauses, one after the other.  An end mark may stand behind them.  A
    value that is the next argument belongs to the switch before it, so the two are taken
    together. -/
inductive Spells : List String → List Clause → Prop where
  | nil : Spells [] []
  | endMark : Spells ["--"] []
  | complete {argument : String} {rest : List String} {clauses clauses' : List Clause} :
      Complete argument clauses → Spells rest clauses' →
      Spells (argument :: rest) (clauses ++ clauses')
  | opened {argument text : String} {rest : List String} {flags : List Flag} {which : Valued}
      {clauses : List Clause} : Open argument flags which → IsFree text → Spells rest clauses →
      Spells (argument :: text :: rest) (flags.map .flag ++ .value which text :: clauses)

/-! ## Tokens

  The form of an argument is decided by its first two characters, and each form can be written
  back. -/

namespace Token

/-- The argument that has a form. -/
def spelling : Token → String
  | .endMark => "--"
  | .word w none => "--" ++ w
  | .word w (some value) => "--" ++ w ++ "=" ++ value
  | .letters cs => "-" ++ String.ofList cs
  | .plain text => text

theorem spelling_splitWord (text : List Char) :
    (splitWord text).spelling = "--" ++ String.ofList text := by
  have happend := List.takeWhile_append_dropWhile (p := (· ≠ '=')) (l := text)
  rw [splitWord]
  cases hdrop : text.dropWhile (· ≠ '=') with
  | nil =>
    rw [hdrop, List.append_nil] at happend
    simp only [spelling, happend]
  | cons c value =>
    have hc : c = '=' := by
      have hnot := List.head?_dropWhile_not (· ≠ '=') text
      rw [hdrop] at hnot
      simpa using hnot
    rw [hdrop, hc] at happend
    rw [spelling, ← String.toList_inj]
    generalize text.takeWhile (· ≠ '=') = word at happend
    simp [← happend]

/-- The form of an argument has all of it. -/
theorem spelling_ofArgument (argument : String) : (ofArgument argument).spelling = argument := by
  rw [ofArgument]
  split
  · next h => rw [← String.toList_inj, h]; rfl
  · next rest _ h => rw [spelling_splitWord, ← String.toList_inj, h]; simp
  · next letter rest _ _ h => rw [spelling, ← String.toList_inj, h]; simp
  · rfl

theorem splitWord_of_notMem {text : List Char} (h : '=' ∉ text) :
    splitWord text = .word (String.ofList text) none := by
  have hall : ∀ c ∈ text, decide (c ≠ '=') = true := fun c hc =>
    decide_eq_true fun heq => h (heq ▸ hc)
  have htake : text.takeWhile (· ≠ '=') = text := List.takeWhile_eq_self_iff.2 hall
  have hdrop : text.dropWhile (· ≠ '=') = [] := List.dropWhile_eq_nil_iff.2 hall
  rw [splitWord, htake, hdrop]

/-- The value begins behind the first equals sign, whatever it has in it. -/
theorem splitWord_append {word : List Char} (h : '=' ∉ word) (value : List Char) :
    splitWord (word ++ '=' :: value) = .word (String.ofList word) (some (String.ofList value)) := by
  have hall : ∀ c ∈ word, decide (c ≠ '=') = true := fun c hc =>
    decide_eq_true fun heq => h (heq ▸ hc)
  rw [splitWord, List.takeWhile_append_of_pos hall, List.dropWhile_append_of_pos hall]
  simp

/-- Two dashes and something more are a word. -/
theorem ofArgument_of_two_dashes {argument : String} {c : Char} {rest : List Char}
    (h : argument.toList = '-' :: '-' :: c :: rest) :
    ofArgument argument = splitWord (c :: rest) := by
  rw [ofArgument, h]
  simp

theorem ofArgument_of_one_dash {argument : String} {letter : Char} {rest : List Char}
    (h : argument.toList = '-' :: letter :: rest) (hne : letter ≠ '-') :
    ofArgument argument = .letters (letter :: rest) := by
  rw [ofArgument, h]
  simp [hne]

theorem ofArgument_word (switch : Switch) :
    ofArgument ("--" ++ switch.word) = .word switch.word none := by
  obtain ⟨c, rest, hword⟩ := List.exists_cons_of_ne_nil
    (fun h => switch.word_ne_empty (String.toList_eq_nil_iff.1 h))
  have hlist : ("--" ++ switch.word).toList = '-' :: '-' :: c :: rest := by simp [hword]
  rw [ofArgument_of_two_dashes hlist, ← hword, splitWord_of_notMem switch.equals_notMem_word,
    String.ofList_toList]

theorem ofArgument_wordEquals (switch : Switch) (value : String) :
    ofArgument ("--" ++ switch.word ++ "=" ++ value) = .word switch.word (some value) := by
  obtain ⟨c, rest, hword⟩ := List.exists_cons_of_ne_nil
    (fun h => switch.word_ne_empty (String.toList_eq_nil_iff.1 h))
  have hlist : ("--" ++ switch.word ++ "=" ++ value).toList =
      '-' :: '-' :: c :: (rest ++ '=' :: value.toList) := by
    simp [hword]
  rw [ofArgument_of_two_dashes hlist, ← List.cons_append, ← hword,
    splitWord_append switch.equals_notMem_word, String.ofList_toList, String.ofList_toList]

/-- Letters of switches, with any text attached to the last one. -/
theorem ofArgument_cluster {switches : List Switch} (hne : switches ≠ []) (text : String) :
    ofArgument (cluster switches ++ text) =
      .letters (switches.map Switch.letter ++ text.toList) := by
  obtain ⟨switch, switches, rfl⟩ := List.exists_cons_of_ne_nil hne
  have hlist : (cluster (switch :: switches) ++ text).toList =
      '-' :: switch.letter :: (switches.map Switch.letter ++ text.toList) := by
    simp [cluster]
  rw [ofArgument_of_one_dash hlist switch.letter_ne_dash]
  rfl

/-- What is read as neither a word nor letters can be a value. -/
theorem isFree_of_ofArgument {argument text : String} (h : ofArgument argument = .plain text) :
    IsFree argument := by
  rw [ofArgument] at h
  split at h
  · cases h
  · rw [splitWord] at h
    split at h <;> cases h
  · cases h
  · next hletters =>
    by_cases hdash : argument = "-"
    · exact .inl hdash
    · refine .inr fun rest hlist => ?_
      cases rest with
      | nil => exact hdash (String.toList_inj.1 hlist)
      | cons c rest => exact hletters c rest hlist

/-- And what can be a value is read so, be it a dash alone. -/
theorem ofArgument_of_isFree {text : String} (h : IsFree text) : ofArgument text = .plain text := by
  rcases h with rfl | h
  · rfl
  · rw [ofArgument]
    split
    · next heq => exact absurd heq (h _)
    · next heq => exact absurd heq (h _)
    · next heq => exact absurd heq (h _)
    · rfl

/-- The end mark is two dashes and nothing else. -/
theorem ofArgument_eq_endMark_iff {argument : String} :
    ofArgument argument = .endMark ↔ argument = "--" := by
  constructor
  · intro h
    rw [← spelling_ofArgument argument, h, spelling]
  · rintro rfl
    rfl

theorem ne_nil_of_ofArgument {argument : String} {cs : List Char}
    (h : ofArgument argument = .letters cs) : cs ≠ [] := by
  rw [ofArgument] at h
  split at h
  · cases h
  · rw [splitWord] at h
    split at h <;> cases h
  · cases h
    exact List.cons_ne_nil _ _
  · cases h

end Token

/-! ## What the draft takes

  A draft refuses a clause about something that it has already, and a value that cannot be read. -/

/-- After a sequence that succeeds its first part has. -/
theorem bind_eq_ok_iff {ε α β : Type} {step : Except ε α} {next : α → Except ε β} {b : β} :
    step >>= next = .ok b ↔ ∃ a, step = .ok a ∧ next a = .ok b := by
  cases step with
  | error reason =>
    constructor
    · intro h
      cases h
    · rintro ⟨a, h, -⟩
      cases h
  | ok a =>
    constructor
    · intro h
      exact ⟨a, rfl, h⟩
    · rintro ⟨_, ha, h⟩
      cases ha
      exact h

namespace Draft

/-- Takes a clause. -/
def add (draft : Draft) : Clause → Except Refusal Draft
  | .value which text => draft.set which text
  | .flag which => draft.raise which

/-- Takes clauses, one after the other. -/
def addAll (draft : Draft) (clauses : List Clause) : Except Refusal Draft :=
  clauses.foldlM add draft

theorem addAll_append (draft : Draft) (clauses clauses' : List Clause) :
    draft.addAll (clauses ++ clauses') = draft.addAll clauses >>= (addAll · clauses') :=
  List.foldlM_append

theorem addAll_cons (draft : Draft) (clause : Clause) (clauses : List Clause) :
    draft.addAll (clause :: clauses) = draft.add clause >>= (addAll · clauses) :=
  List.foldlM_cons

theorem addAll_singleton (draft : Draft) (clause : Clause) :
    draft.addAll [clause] = draft.add clause := by
  rw [addAll_cons]
  cases draft.add clause <;> rfl

end Draft

/-! ## One argument

  From a reader with nothing pending.  Every case of the grammar is one way through the reader,
  and the reader has no way to success beside these. -/

namespace Reader

/-- Takes one argument that is no end mark. -/
def take (reader : Reader) (argument : String) : Except Refusal Reader :=
  match Token.ofArgument argument with
  | .endMark => .error .unknownArgument
  | .word w value => reader.takeWord w value
  | .letters cs => reader.takeLetters cs
  | .plain text => reader.takePlain text

/-- An argument that is no end mark is taken, and then the rest is. -/
theorem takeAll_cons (reader : Reader) {argument : String} (h : argument ≠ "--")
    (rest : List String) :
    reader.takeAll (argument :: rest) = reader.take argument >>= (takeAll · rest) := by
  rw [takeAll, take]
  cases htoken : Token.ofArgument argument with
  | endMark => exact absurd (Token.ofArgument_eq_endMark_iff.1 htoken) h
  | word w value => rfl
  | letters cs => rfl
  | plain text => rfl

variable {reader reader' : Reader} {draft result : Draft}

/-- Flags at the front of a cluster are raised. -/
theorem takeLetters_flags (draft : Draft) (flags : List Flag) (rest : List Char) :
    takeLetters ⟨draft, none⟩ ((flags.map Switch.flag).map Switch.letter ++ rest) =
      draft.addAll (flags.map .flag) >>= fun draft => takeLetters ⟨draft, none⟩ rest := by
  induction flags generalizing draft with
  | nil => rfl
  | cons which flags ih =>
    have hletter : Switch.ofLetter? (Switch.flag which).letter = some (.flag which) :=
      Switch.ofLetter?_eq_some_iff.2 rfl
    rw [List.map_cons, List.map_cons, List.cons_append, takeLetters, hletter, List.map_cons,
      Draft.addAll_cons]
    change draft.raise which >>= _ >>= _ = (draft.raise which >>= _) >>= _
    cases draft.raise which with
    | error refusal => rfl
    | ok draft => exact ih draft

/-- A flag by itself is raised at once. -/
theorem takeAlone_flag (draft : Draft) (which : Flag) :
    takeAlone ⟨draft, none⟩ (.flag which) =
      draft.raise which >>= fun draft => .ok ⟨draft, none⟩ := rfl

/-- With nothing pending, an attached value is set at once. -/
theorem setAttached_none (draft : Draft) (which : Valued) (text : String) :
    setAttached ⟨draft, none⟩ which text =
      draft.set which text >>= fun draft => .ok ⟨draft, none⟩ := rfl

theorem dropEquals_of_ne {cs : List Char} (h : ∀ rest, cs ≠ '=' :: rest) : dropEquals cs = cs := by
  rw [dropEquals]
  exact h

/-- A letter with a value takes all that follows it. -/
theorem takeLetters_valued (draft : Draft) (which : Valued) (rest : List Char) :
    takeLetters ⟨draft, none⟩ (which.letter :: rest) =
      if rest.isEmpty then .ok ⟨draft, some ⟨which, none⟩⟩
      else draft.set which (String.ofList (dropEquals rest)) >>= fun draft =>
        .ok ⟨draft, none⟩ := by
  have hletter : Switch.ofLetter? which.letter = some (.valued which) :=
    Switch.ofLetter?_eq_some_iff.2 rfl
  rw [takeLetters, hletter]
  rfl

/-- What a cluster that is taken consists of: flags that could be raised, and then nothing, or a
    switch with a value and whatever follows its letter.  The induction is on the letters, for
    any draft. -/
theorem exists_of_takeLetters {cs : List Char} (h : takeLetters ⟨draft, none⟩ cs = .ok reader) :
    ∃ (flags : List Flag) (middle : Draft), draft.addAll (flags.map .flag) = .ok middle ∧
      (cs = (flags.map Switch.flag).map Switch.letter ∧ reader = ⟨middle, none⟩ ∨
        ∃ (which : Valued) (rest : List Char),
          cs = (flags.map Switch.flag ++ [Switch.valued which]).map Switch.letter ++ rest ∧
          takeLetters ⟨middle, none⟩ (which.letter :: rest) = .ok reader) := by
  induction cs generalizing draft with
  | nil =>
    cases h
    exact ⟨[], draft, rfl, .inl ⟨rfl, rfl⟩⟩
  | cons c cs ih =>
    -- a letter that stands for nothing, a flag, a switch with a value, or help and version
    cases hletter : Switch.ofLetter? c with
    | none =>
      rw [takeLetters, hletter] at h
      cases h
    | some switch =>
      obtain rfl := Switch.ofLetter?_eq_some_iff.1 hletter
      cases switch with
      | valued which => exact ⟨[], draft, rfl, .inr ⟨which, cs, rfl, h⟩⟩
      | flag which =>
        have hflag := takeLetters_flags draft [which] cs
        rw [List.map_singleton, List.map_singleton, List.singleton_append, h] at hflag
        obtain ⟨first, hfirst, hrest⟩ := bind_eq_ok_iff.1 hflag.symm
        obtain ⟨flags, middle, hmiddle, hcs⟩ := ih hrest
        refine ⟨which :: flags, middle, ?_, ?_⟩
        · rw [← List.singleton_append, List.map_append, Draft.addAll_append]
          exact bind_eq_ok_iff.2 ⟨first, hfirst, hmiddle⟩
        · rcases hcs with ⟨rfl, rfl⟩ | ⟨which', rest, rfl, hreader⟩
          · exact .inl ⟨rfl, rfl⟩
          · exact .inr ⟨which', rest, rfl, hreader⟩
      | help =>
        rw [takeLetters, hletter] at h
        cases h
      | version =>
        rw [takeLetters, hletter] at h
        cases h

/-- What a reader with nothing pending becomes by an argument that the grammar has. -/
inductive Taken (draft : Draft) (argument : String) : Reader → Prop where
  | complete {clauses : List Clause} {after : Draft} : Complete argument clauses →
      draft.addAll clauses = .ok after → Taken draft argument ⟨after, none⟩
  | opened {flags : List Flag} {which : Valued} {after : Draft} : Open argument flags which →
      draft.addAll (flags.map .flag) = .ok after →
      Taken draft argument ⟨after, some ⟨which, none⟩⟩

/-- A cluster that is taken is one of the grammar: flags, and perhaps a switch with a value, or
    one that still waits for it. -/
theorem taken_of_takeLetters {cs : List Char} (hne : cs ≠ [])
    (h : takeLetters ⟨draft, none⟩ cs = .ok reader) :
    Taken draft ("-" ++ String.ofList cs) reader := by
  obtain ⟨flags, middle, hmiddle, ⟨rfl, rfl⟩ | ⟨which, rest, rfl, hreader⟩⟩ :=
    exists_of_takeLetters h
  · refine .complete (.letters flags ?_) hmiddle
    rintro rfl
    exact hne rfl
  · rw [String.ofList_append, ← String.append_assoc]
    rw [takeLetters_valued] at hreader
    cases rest with
    | nil =>
      cases hreader
      rw [String.ofList_nil, String.append_empty]
      exact .opened (.letters flags which) hmiddle
    | cons c rest =>
      obtain ⟨after, hset, hafter⟩ := bind_eq_ok_iff.1 hreader
      cases hafter
      have hadd : ∀ text, middle.set which text = .ok after →
          draft.addAll (flags.map .flag ++ [.value which text]) = .ok after := by
        intro text htext
        rw [Draft.addAll_append]
        exact bind_eq_ok_iff.2 ⟨middle, hmiddle, (Draft.addAll_singleton _ _).trans htext⟩
      by_cases hc : c = '='
      · subst hc
        rw [String.ofList_cons, ← String.append_assoc]
        exact .complete (.lettersEquals flags which _) (hadd _ hset)
      · have hequals : ∀ tail, c :: rest ≠ '=' :: tail :=
          fun tail heq => hc (List.cons.inj heq).1
        rw [dropEquals_of_ne hequals] at hset
        refine .complete (.lettersValue flags which _ ?_ ?_) (hadd _ hset)
        · simp
        · rw [String.toList_ofList]
          exact hequals

theorem takeWord_alone (reader : Reader) (switch : Switch) :
    reader.takeWord switch.word none = reader.takeAlone switch := by
  have hword : Switch.ofWord? switch.word = some switch := Switch.ofWord?_eq_some_iff.2 rfl
  simp only [takeWord, hword]

/-- A switch by its word, with a text attached: only one that has a value takes it. -/
theorem takeWord_attached (reader : Reader) (switch : Switch) (text : String) :
    reader.takeWord switch.word (some text) =
      match switch with
      | .valued which => reader.setAttached which text
      | _ => .error .tooManyValues := by
  have hword : Switch.ofWord? switch.word = some switch := Switch.ofWord?_eq_some_iff.2 rfl
  cases switch <;> simp only [takeWord, hword]

theorem taken_of_takeWord {switch : Switch} {value : Option String}
    (h : takeWord ⟨draft, none⟩ switch.word value = .ok reader) :
    Taken draft (Token.word switch.word value).spelling reader := by
  cases value with
  | none =>
    rw [takeWord_alone] at h
    cases switch with
    | valued which =>
      cases h
      exact .opened (.word which) rfl
    | flag which =>
      rw [takeAlone_flag] at h
      obtain ⟨after, hraise, hafter⟩ := bind_eq_ok_iff.1 h
      cases hafter
      exact .complete (.word which) ((Draft.addAll_singleton _ _).trans hraise)
    | help => cases h
    | version => cases h
  | some text =>
    rw [takeWord_attached] at h
    cases switch with
    | valued which =>
      simp only [setAttached_none] at h
      obtain ⟨after, hset, hafter⟩ := bind_eq_ok_iff.1 h
      cases hafter
      exact .complete (.wordEquals which text) ((Draft.addAll_singleton _ _).trans hset)
    | flag which => cases h
    | help => cases h
    | version => cases h

/-- A cluster is taken when its flags can be raised and the rest is taken then. -/
theorem take_cluster {flags : List Flag} {middle : Draft}
    (hadd : draft.addAll (flags.map .flag) = .ok middle) (which : Valued) (text : String) :
    take ⟨draft, none⟩ (cluster (flags.map .flag ++ [.valued which]) ++ text) =
      takeLetters ⟨middle, none⟩ (which.letter :: text.toList) := by
  rw [take, Token.ofArgument_cluster (by simp)]
  simp only [List.map_append, List.append_assoc, takeLetters_flags, hadd]
  rfl

/-- A cluster ends with a value when the value is what follows the last letter, less an `=`. -/
theorem take_cluster_value {flags : List Flag} {which : Valued} {text attached : String}
    {after : Draft}
    (hadd : draft.addAll (flags.map .flag ++ [.value which text]) = .ok after)
    (hne : attached ≠ "") (hdrop : dropEquals attached.toList = text.toList) :
    take ⟨draft, none⟩ (cluster (flags.map .flag ++ [.valued which]) ++ attached) =
      .ok ⟨after, none⟩ := by
  rw [Draft.addAll_append] at hadd
  obtain ⟨middle, hmiddle, hset⟩ := bind_eq_ok_iff.1 hadd
  rw [Draft.addAll_singleton] at hset
  have hlist : attached.toList ≠ [] := fun h => hne (String.toList_eq_nil_iff.1 h)
  rw [take_cluster hmiddle, takeLetters_valued, if_neg (by simpa using hlist), hdrop,
    String.ofList_toList]
  exact bind_eq_ok_iff.2 ⟨after, hset, rfl⟩

/-- An argument that is taken is one of the grammar. -/
theorem taken_of_take {argument : String} (h : take ⟨draft, none⟩ argument = .ok reader) :
    Taken draft argument reader := by
  rw [take] at h
  rw [← Token.spelling_ofArgument argument]
  cases htoken : Token.ofArgument argument with
  | endMark =>
    rw [htoken] at h
    cases h
  | word w value =>
    rw [htoken] at h
    cases hword : Switch.ofWord? w with
    | none =>
      simp only [takeWord, hword] at h
      cases h
    | some switch =>
      obtain rfl := Switch.ofWord?_eq_some_iff.1 hword
      exact taken_of_takeWord h
  | letters cs =>
    rw [htoken] at h
    exact taken_of_takeLetters (Token.ne_nil_of_ofArgument htoken) h
  | plain text =>
    rw [htoken] at h
    cases h

/-- An argument that says all its clauses is taken if the draft takes them.  For each way of
    writing the form of the argument is found first, and then the reader is run on that form. -/
theorem take_of_complete {argument : String} {clauses : List Clause} {after : Draft}
    (h : Complete argument clauses) (hadd : draft.addAll clauses = .ok after) :
    take ⟨draft, none⟩ argument = .ok ⟨after, none⟩ := by
  cases h with
  | word which =>
    rw [Draft.addAll_singleton] at hadd
    change take ⟨draft, none⟩ ("--" ++ (Switch.flag which).word) = _
    rw [take, Token.ofArgument_word]
    refine (takeWord_alone _ _).trans ?_
    rw [takeAlone_flag]
    exact bind_eq_ok_iff.2 ⟨after, hadd, rfl⟩
  | wordEquals which text =>
    rw [Draft.addAll_singleton] at hadd
    change take ⟨draft, none⟩ ("--" ++ (Switch.valued which).word ++ "=" ++ text) = _
    rw [take, Token.ofArgument_wordEquals]
    refine (takeWord_attached _ _ _).trans ?_
    simp only [setAttached_none]
    exact bind_eq_ok_iff.2 ⟨after, hadd, rfl⟩
  | letters flags hne =>
    have hne' : flags.map Switch.flag ≠ [] := fun h => hne (List.map_eq_nil_iff.1 h)
    have htoken := Token.ofArgument_cluster hne' ""
    rw [String.append_empty] at htoken
    rw [take, htoken]
    change takeLetters ⟨draft, none⟩ (_ ++ []) = _
    rw [takeLetters_flags, hadd]
    rfl
  | lettersEquals flags which text =>
    rw [String.append_assoc]
    refine take_cluster_value hadd ?_ ?_
    · simp
    · simp [dropEquals]
  | lettersValue flags which text hne hequals =>
    exact take_cluster_value hadd hne (dropEquals_of_ne hequals)

/-- One that leaves a switch open is taken if its flags can be raised, and the switch is pending
    then. -/
theorem take_of_open {argument : String} {flags : List Flag} {which : Valued} {after : Draft}
    (h : Open argument flags which) (hadd : draft.addAll (flags.map .flag) = .ok after) :
    take ⟨draft, none⟩ argument = .ok ⟨after, some ⟨which, none⟩⟩ := by
  cases h with
  | word =>
    cases hadd
    change take ⟨draft, none⟩ ("--" ++ (Switch.valued which).word) = _
    rw [take, Token.ofArgument_word]
    exact takeWord_alone _ _
  | letters =>
    have htake := take_cluster hadd which ""
    rw [String.append_empty] at htake
    rw [htake]
    exact takeLetters_valued _ _ []

/-- A reader with nothing pending takes exactly the arguments of the grammar. -/
theorem take_eq_ok_iff {argument : String} :
    take ⟨draft, none⟩ argument = .ok reader ↔ Taken draft argument reader := by
  constructor
  · exact taken_of_take
  · intro h
    cases h with
    | complete hcomplete hadd => exact take_of_complete hcomplete hadd
    | opened hopen hadd => exact take_of_open hopen hadd

/-! ## All arguments

  What a pending switch with its value changes is only that the value is set first. -/

/-- Whatever is pending is settled before a switch is taken. -/
theorem takeAlone_eq_settle (reader : Reader) (switch : Switch) :
    reader.takeAlone switch = reader.settle >>= fun draft => takeAlone ⟨draft, none⟩ switch := by
  cases switch <;> rfl

/-- It is settled before an attached value is set. -/
theorem setAttached_eq_settle (reader : Reader) (which : Valued) (text : String) :
    reader.setAttached which text =
      reader.settle >>= fun draft => setAttached ⟨draft, none⟩ which text := rfl

/-- A word is taken if what is pending can be settled and the word is taken then.  This is about
    success only: which refusal comes first, that of the word or that of the value, is another
    matter. -/
theorem takeWord_settles {w : String} {value : Option String} :
    reader.takeWord w value = .ok reader' ↔
      ∃ draft, reader.settle = .ok draft ∧ takeWord ⟨draft, none⟩ w value = .ok reader' := by
  rw [← bind_eq_ok_iff]
  cases hword : Switch.ofWord? w with
  | none =>
    simp only [takeWord, hword]
    cases reader.settle <;> simp [bind, Except.bind]
  | some switch =>
    obtain rfl := Switch.ofWord?_eq_some_iff.1 hword
    cases value with
    | none =>
      simp only [takeWord_alone]
      rw [takeAlone_eq_settle]
    | some text =>
      simp only [takeWord_attached]
      cases switch with
      | valued which =>
        simp only
        rw [setAttached_eq_settle]
      | _ => cases reader.settle <;> simp [bind, Except.bind]

/-- And so it is with letters, of which the first one settles what is pending. -/
theorem takeLetters_settles {cs : List Char} (hne : cs ≠ []) :
    reader.takeLetters cs = .ok reader' ↔
      ∃ draft, reader.settle = .ok draft ∧ takeLetters ⟨draft, none⟩ cs = .ok reader' := by
  obtain ⟨c, cs, rfl⟩ := List.exists_cons_of_ne_nil hne
  rw [← bind_eq_ok_iff]
  cases hletter : Switch.ofLetter? c with
  | none =>
    simp only [takeLetters, hletter]
    cases reader.settle <;> simp [bind, Except.bind]
  | some switch =>
    cases switch with
    | valued which =>
      simp only [takeLetters, hletter]
      by_cases hrest : cs.isEmpty
      · simp only [if_pos hrest]
        rfl
      · simp only [if_neg hrest]
        rw [setAttached_eq_settle]
    | _ =>
      simp only [takeLetters, hletter]
      rw [takeAlone_eq_settle, bind_assoc]

/-- A reader that waits for a value takes nothing but that: a word or letters would have to
    settle first what is pending, and a switch without a value cannot be settled. -/
theorem take_awaiting {which : Valued} {argument : String} :
    take ⟨draft, some ⟨which, none⟩⟩ argument = .ok reader ↔
      IsFree argument ∧ reader = ⟨draft, some ⟨which, some argument⟩⟩ := by
  constructor
  · intro h
    rw [take] at h
    cases htoken : Token.ofArgument argument with
    | endMark =>
      rw [htoken] at h
      cases h
    | word w value =>
      rw [htoken] at h
      obtain ⟨_, hsettle, -⟩ := takeWord_settles.1 h
      cases hsettle
    | letters cs =>
      rw [htoken] at h
      obtain ⟨_, hsettle, -⟩ := (takeLetters_settles (Token.ne_nil_of_ofArgument htoken)).1 h
      cases hsettle
    | plain text =>
      rw [htoken] at h
      have hfree := Token.isFree_of_ofArgument htoken
      cases h
      rw [Token.ofArgument_of_isFree hfree] at htoken
      cases htoken
      exact ⟨hfree, rfl⟩
  · rintro ⟨hfree, rfl⟩
    rw [take, Token.ofArgument_of_isFree hfree]
    rfl

/-- A reader that has met the value it waited for is as good as one that has set it already. -/
theorem take_met {which : Valued} {text argument : String} :
    take ⟨draft, some ⟨which, some text⟩⟩ argument = .ok reader ↔
      ∃ middle, draft.set which text = .ok middle ∧ take ⟨middle, none⟩ argument = .ok reader := by
  simp only [take]
  cases htoken : Token.ofArgument argument with
  | endMark => simp
  | word w value => exact takeWord_settles
  | letters cs => exact takeLetters_settles (Token.ne_nil_of_ofArgument htoken)
  | plain text => simp [takePlain]

/-- The end mark at the end settles what is pending. -/
theorem takeAll_endMark (reader : Reader) : reader.takeAll ["--"] = reader.settle := rfl

/-- Nothing is taken behind the end mark. -/
theorem takeAll_endMark_cons (reader : Reader) (argument : String) (rest : List String) :
    reader.takeAll ("--" :: argument :: rest) = .error .unknownArgument := rfl

theorem ne_endMark_of_take {argument : String} (h : reader.take argument = .ok reader') :
    argument ≠ "--" := by
  rintro rfl
  cases h

/-- Arguments are read to their end with a value still to be set if they are with the value set
    before. -/
theorem takeAll_met {which : Valued} {text : String} {arguments : List String} :
    takeAll ⟨draft, some ⟨which, some text⟩⟩ arguments = .ok result ↔
      ∃ middle, draft.set which text = .ok middle ∧
        takeAll ⟨middle, none⟩ arguments = .ok result := by
  cases arguments with
  | nil =>
    rw [← bind_eq_ok_iff]
    simp only [takeAll, settle]
    cases draft.set which text <;> rfl
  | cons argument rest =>
    by_cases hmark : argument = "--"
    · subst hmark
      cases rest with
      | nil =>
        rw [← bind_eq_ok_iff]
        simp only [takeAll_endMark, settle]
        cases draft.set which text <;> rfl
      | cons _ _ => simp [takeAll_endMark_cons]
    · simp only [takeAll_cons _ hmark, bind_eq_ok_iff, take_met]
      constructor
      · rintro ⟨reader, ⟨middle, hset, htake⟩, hrest⟩
        exact ⟨middle, hset, reader, htake, hrest⟩
      · rintro ⟨middle, hset, reader, htake, hrest⟩
        exact ⟨reader, ⟨middle, hset, htake⟩, hrest⟩

/-- A reader that waits for a value comes to the end if the next argument can be the value and
    the draft takes it. -/
theorem takeAll_awaiting {which : Valued} {arguments : List String} :
    takeAll ⟨draft, some ⟨which, none⟩⟩ arguments = .ok result ↔
      ∃ text rest middle, arguments = text :: rest ∧ IsFree text ∧
        draft.set which text = .ok middle ∧ takeAll ⟨middle, none⟩ rest = .ok result := by
  cases arguments with
  | nil => simp [takeAll, settle]
  | cons argument rest =>
    by_cases hmark : argument = "--"
    · subst hmark
      constructor
      · cases rest <;> rintro ⟨⟩
      · rintro ⟨text, rest', middle, heq, hfree, -, -⟩
        cases heq
        cases Token.ofArgument_of_isFree hfree
    · rw [takeAll_cons _ hmark, bind_eq_ok_iff]
      constructor
      · rintro ⟨reader, htake, hrest⟩
        obtain ⟨hfree, rfl⟩ := take_awaiting.1 htake
        obtain ⟨middle, hset, hmiddle⟩ := takeAll_met.1 hrest
        exact ⟨argument, rest, middle, rfl, hfree, hset, hmiddle⟩
      · rintro ⟨text, rest', middle, heq, hfree, hset, hmiddle⟩
        cases heq
        exact ⟨_, take_awaiting.2 ⟨hfree, rfl⟩, takeAll_met.2 ⟨middle, hset, hmiddle⟩⟩

/-- **The reader comes to the end of exactly the lists of the grammar whose clauses the draft
    takes**, and then the draft has taken them in their order.  The induction is on the number
    of arguments and not on the list, as an argument that leaves a switch open takes the next
    one with it. -/
theorem takeAll_eq_ok_iff {arguments : List String} :
    takeAll ⟨draft, none⟩ arguments = .ok result ↔
      ∃ clauses, Spells arguments clauses ∧ draft.addAll clauses = .ok result := by
  -- along the arguments; one that leaves a switch open takes the next one with it
  induction hlength : arguments.length using Nat.strongRecOn generalizing arguments draft with
  | _ length ih =>
  subst hlength
  constructor
  · intro h
    cases arguments with
    | nil =>
      cases h
      exact ⟨[], .nil, rfl⟩
    | cons argument rest =>
      by_cases hmark : argument = "--"
      · subst hmark
        cases rest with
        | nil =>
          cases h
          exact ⟨[], .endMark, rfl⟩
        | cons _ _ => cases h
      · rw [takeAll_cons _ hmark] at h
        obtain ⟨reader, htake, hrest⟩ := bind_eq_ok_iff.1 h
        cases take_eq_ok_iff.1 htake with
        | complete hcomplete hadd =>
          obtain ⟨clauses', hspells, hclauses⟩ := (ih _ (Nat.lt_succ_self _) rfl).1 hrest
          refine ⟨_, .complete hcomplete hspells, ?_⟩
          rw [Draft.addAll_append]
          exact bind_eq_ok_iff.2 ⟨_, hadd, hclauses⟩
        | opened hopen hadd =>
          obtain ⟨text, rest, middle, rfl, hfree, hset, hmiddle⟩ := takeAll_awaiting.1 hrest
          obtain ⟨clauses', hspells, hclauses⟩ :=
            (ih _ (by simp only [List.length_cons]; omega) rfl).1 hmiddle
          refine ⟨_, .opened hopen hfree hspells, ?_⟩
          rw [Draft.addAll_append]
          refine bind_eq_ok_iff.2 ⟨_, hadd, ?_⟩
          rw [Draft.addAll_cons]
          exact bind_eq_ok_iff.2 ⟨_, hset, hclauses⟩
  · rintro ⟨clauses, hspells, hclauses⟩
    cases hspells with
    | nil => exact hclauses
    | endMark => exact hclauses
    | complete hcomplete hspells =>
      rw [Draft.addAll_append] at hclauses
      obtain ⟨middle, hadd, hclauses⟩ := bind_eq_ok_iff.1 hclauses
      have htake := take_eq_ok_iff.2 (.complete hcomplete hadd)
      rw [takeAll_cons _ (ne_endMark_of_take htake)]
      have hrest := (ih _ (Nat.lt_succ_self _) rfl).2 ⟨_, hspells, hclauses⟩
      exact bind_eq_ok_iff.2 ⟨_, htake, hrest⟩
    | opened hopen hfree hspells =>
      rw [Draft.addAll_append] at hclauses
      obtain ⟨middle, hadd, hclauses⟩ := bind_eq_ok_iff.1 hclauses
      rw [Draft.addAll_cons] at hclauses
      obtain ⟨after, hset, hclauses⟩ := bind_eq_ok_iff.1 hclauses
      have htake := take_eq_ok_iff.2 (.opened hopen hadd)
      rw [takeAll_cons _ (ne_endMark_of_take htake)]
      have hrest := (ih _ (by simp only [List.length_cons]; omega) rfl).2 ⟨_, hspells, hclauses⟩
      exact bind_eq_ok_iff.2
        ⟨_, htake, takeAll_awaiting.2 ⟨_, _, after, rfl, hfree, hset, hrest⟩⟩

end Reader

end Thicket.Command
