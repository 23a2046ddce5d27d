/-
  The order of identifiers.

  1. **Counters in order** — identifiers are used up in the order of their counters
     (`Accounted.counter_lt`), for an identifier stands in the list of all that were used up where
     its counter says.
  2. **Stretches** — the record of an entry and of all that is below it is one stretch of the whole
     record (`Planted.stretch`).
  3. **What occurs below an entry**, be it the identifier of an entry or a tag that is used there
     for the first time, is used up in that stretch and behind the entry's own identifier
     (`Stretch.occurs`).  For tags that takes an argument: a line is about a file that was made in
     the same stretch, as no two files have one name.
  4. **Numbers** — so the counters of a subtree lie between those of the entry and of the next
     entry of its directory (`Planted.numbered`), and subdirectories are numbered before files.
-/
import Thicket.Proofs.Codec.RoundTrip
import Thicket.Proofs.Sketch.Plantings

namespace Thicket

/-! ## Counters in order

  The record is told oldest event first, the history newest first; `usedUp` reads the one as
  `minted` reads the other. -/

/-- The identifier that an event uses up, if it is a new one. -/
def Event.uses? : Event → Option String
  | directory _ identifier => some identifier
  | discarded identifier => some identifier
  | file _ identifier _ => some identifier
  | line _ tag => some tag
  | filled .. => none

/-- What adds a line is the line's own event. -/
theorem Event.eq_line_of_line? {event : Event} {line : String × String}
    (h : event.line? = some line) : event = .line line.1 line.2 := by
  cases event with
  | line owner tag =>
    cases h
    rfl
  | directory parent name => cases h
  | discarded name => cases h
  | file parent name content => cases h
  | filled there depth slots files => cases h

/-- The identifiers that events used up, told in order. -/
def usedUp (events : List Event) : List String := History.minted events.reverse

/-- What was used up is what some event uses: a tag that is used again was used up by its first
    line. -/
theorem mem_usedUp {events : List Event} {identifier : String} :
    identifier ∈ usedUp events ↔ ∃ event ∈ events, event.uses? = some identifier := by
  have hminted : ∀ history : History, identifier ∈ History.minted history ↔
      ∃ event ∈ history, event.uses? = some identifier := by
    intro history
    induction history with
    | nil => simp [History.minted]
    | cons event before ih =>
      simp only [List.mem_cons, exists_eq_or_imp, ← ih]
      cases event with
      | line owner tag =>
        rw [History.minted, Event.uses?, Option.some.injEq]
        split
        · rename_i hold
          constructor
          · exact Or.inr
          · rintro (rfl | hmem)
            · exact History.mem_minted_of_mem_tags hold
            · exact hmem
        · rw [List.mem_append, List.mem_singleton, or_comm, eq_comm]
      | directory parent name => simp [History.minted, Event.uses?, or_comm, eq_comm]
      | discarded name => simp [History.minted, Event.uses?, or_comm, eq_comm]
      | file parent name content => simp [History.minted, Event.uses?, or_comm, eq_comm]
      | filled place there slots files => simp [History.minted, Event.uses?]
  rw [usedUp, hminted]
  simp only [List.mem_reverse]

/-- What was used up before comes first.  An event adds its identifier at the end of what the
    events before it have used up, or nothing, so by induction on the events behind. -/
theorem usedUp_prefix (front back : List Event) : usedUp front <+: usedUp (front ++ back) := by
  -- events that are added to a history come first in it, and nothing behind them changes
  have hminted : ∀ more before : History,
      History.minted before <+: History.minted (more ++ before) := by
    intro more before
    induction more with
    | nil => exact List.prefix_rfl
    | cons event more ih =>
      refine ih.trans ?_
      rw [List.cons_append]
      cases event with
      | line owner tag =>
        rw [History.minted]
        split
        · exact List.prefix_rfl
        · exact List.prefix_append _ _
      | directory parent name => exact List.prefix_append _ _
      | discarded name => exact List.prefix_append _ _
      | file parent name content => exact List.prefix_append _ _
      | filled place there slots files => exact List.prefix_rfl
  rw [usedUp, usedUp, List.reverse_append]
  exact hminted _ _

/-- The event uses up the identifier, which was not in use before. -/
def Mints (front : List Event) (event : Event) (identifier : String) : Prop :=
  usedUp (front ++ [event]) = usedUp front ++ [identifier]

/-- What makes an entry uses up its identifier for the first time, since only tags are used
    again. -/
theorem mints_of_place? {event : Event} {place : Place} {identifier : String}
    (hplace : event.place? = some place) (huses : event.uses? = some identifier)
    (front : List Event) : Mints front event identifier := by
  rw [Mints, usedUp, usedUp, List.reverse_append]
  cases event with
  | directory parent name =>
    cases huses
    rfl
  | file parent name content =>
    cases huses
    rfl
  | discarded name => cases hplace
  | line owner tag => cases hplace
  | filled there depth slots files => cases hplace

/-- **Identifiers are used up in the order of their counters.** All that were used up are the
    identifiers of the counters below the present one, in order; so the place of an identifier
    in that list is its counter, and what was used up earlier stands further in front. -/
theorem Accounted.counter_lt {codec : Codec} {depth unfilled : Nat} {progress : Progress}
    (h : Accounted codec depth [] unfilled progress) {front back : List Event} {event : Event}
    (hhistory : progress.history.reverse = front ++ event :: back) {earlier later : String}
    (hearlier : earlier ∈ usedUp front) (hlater : Mints front event later) :
    ∃ k l, codec.decode earlier = some k ∧ codec.decode later = some l ∧ k < l := by
  have hall : usedUp front ++ [later] <+: codec.identifiers progress.counter := by
    have hsplit : progress.history.reverse = (front ++ [event]) ++ back := by
      rw [hhistory, List.append_assoc, List.singleton_append]
    rw [← h.minted_eq, ← hlater, ← List.reverse_reverse progress.history, hsplit]
    exact usedUp_prefix _ _
  -- an identifier stands where its counter says
  have hat : ∀ (k : Nat) (hk : k < (usedUp front ++ [later]).length), k < 2 ^ 64 ∧
      (usedUp front ++ [later])[k] = codec.encode (UInt64.ofNat k) := by
    intro k hk
    have hcounter : k < progress.counter.toNat := by
      rw [← Codec.length_identifiers codec]
      exact Nat.lt_of_lt_of_le hk hall.length_le
    refine ⟨Nat.lt_trans hcounter progress.counter.toNat_lt, ?_⟩
    rw [hall.getElem hk]
    simp [Codec.identifiers]
  obtain ⟨k, hk, hget⟩ := List.getElem_of_mem hearlier
  obtain ⟨hk64, hkth⟩ := hat k (by rw [List.length_append]; omega)
  obtain ⟨hl64, hlth⟩ := hat (usedUp front).length (by simp)
  rw [List.getElem_append_left hk, hget] at hkth
  rw [List.getElem_concat_length rfl] at hlth
  refine ⟨UInt64.ofNat k, UInt64.ofNat (usedUp front).length, ?_, ?_, ?_⟩
  · rw [hkth, codec.decode_encode]
  · rw [hlth, codec.decode_encode]
  · rw [UInt64.lt_iff_toNat_lt, UInt64.toNat_ofNat_of_lt' (by exact hk64),
      UInt64.toNat_ofNat_of_lt' (by exact hl64)]
    exact hk

/-! ## Stretches

  In front of a stretch and at its back nothing is made below its entry, and every line there is
  about a file that was made there. -/

/-- The events are cut into a planting and what happens in front and at the back, where nothing is
    made at the planting's place or below it. -/
structure Stretch (events front : List Event) (planting : Planting) (back : List Event) :
    Prop where
  events_eq : events = front ++ planting.events ++ back
  outside : ∀ event ∈ front ++ back, ∀ made, event.place? = some made →
    ¬ planting.place <:+ made
  owns : OwnsLines (front ++ back)

section Planted

variable {events before behind : List Event} {directory : Place} {plantings : List Planting}

/-- The plantings of a directory are at different places, for in a record that makes no entry
    twice the entries of the plantings are among those it makes. -/
theorem Planted.places_nodup (h : Planted events directory before plantings behind)
    (hnodup : (events.filterMap Event.place?).Nodup) :
    (plantings.map Planting.place).Nodup := by
  rw [h.events_eq, List.filterMap_append, List.filterMap_append, List.filterMap_flatMap] at hnodup
  have hplaces : (plantings.flatMap fun planting => planting.events.filterMap Event.place?) =
      plantings.flatMap fun planting =>
        planting.place :: planting.inner.filterMap Event.place? := by
    refine List.flatMap_congr fun planting hmem => ?_
    rw [Planting.events, List.filterMap_cons_some (h.plantings_in planting hmem).made]
  rw [hplaces] at hnodup
  exact (map_sublist_flatMap_cons _ _ _).nodup hnodup.of_append_left.of_append_right

/-- **The record of an entry and of all that is below it is one stretch.** Before and behind the
    plantings nothing is made in the directory, and what the other plantings make is at or below
    other entries of it; so nothing outside is at the entry's place or below it. -/
theorem Planted.stretch {first rest : List Planting} {planting : Planting}
    (h : Planted events directory before (first ++ planting :: rest) behind)
    (hnodup : (events.filterMap Event.place?).Nodup) :
    Stretch events (before ++ first.flatMap Planting.events) planting
      (rest.flatMap Planting.events ++ behind) := by
  have hin := h.plantings_in planting (by simp)
  obtain ⟨name, hname⟩ := hin.name
  have hplaces := h.places_nodup hnodup
  rw [List.map_append, List.map_cons, List.nodup_middle, ← List.map_append,
    List.nodup_cons] at hplaces
  have hoff : ∀ event ∈ before ++ behind, ∀ made, event.place? = some made →
      ¬ planting.place <:+ made := by
    intro event hevent made hmade hbelow
    rw [hname] at hbelow
    obtain ⟨hdirectory, hne⟩ := below_cons hbelow
    exact hne (h.outside event hevent made hmade hdirectory)
  -- two plantings of one directory have nothing in common
  have hother : ∀ other ∈ first ++ rest, ∀ event ∈ other.events, ∀ made,
      event.place? = some made → ¬ planting.place <:+ made := by
    intro other hmem event hevent made hmade hbelow
    have hinOther : other.In directory := h.plantings_in other (by
      rcases List.mem_append.1 hmem with hmem | hmem
      · exact List.mem_append_left _ hmem
      · exact List.mem_append_right _ (List.mem_cons_of_mem _ hmem))
    have hsame := hinOther.place_eq hin (hinOther.at_or_below hevent hmade) hbelow
    refine hplaces.1 ?_
    rw [← hsame]
    exact List.mem_map_of_mem hmem
  have howns : ∀ part : List Planting, (∀ other ∈ part, other ∈ first ++ planting :: rest) →
      OwnsLines (part.flatMap Planting.events) :=
    fun part hpart => OwnsLines.flatMap fun other hmem =>
      (h.plantings_in other (hpart other hmem)).owns
  refine ⟨?_, ?_, ?_⟩
  · rw [h.events_eq, List.flatMap_append, List.flatMap_cons]
    simp only [List.append_assoc]
  · intro event hevent
    simp only [List.mem_append, List.mem_flatMap] at hevent
    rcases hevent with (hevent | ⟨other, hmem, hevent⟩) | ⟨other, hmem, hevent⟩ | hevent
    · exact hoff event (List.mem_append_left _ hevent)
    · exact hother other (List.mem_append_left _ hmem) event hevent
    · exact hother other (List.mem_append_right _ hmem) event hevent
    · exact hoff event (List.mem_append_right _ hevent)
  · have hfirst := howns first fun other hmem => List.mem_append_left _ hmem
    have hrest := howns rest fun other hmem =>
      List.mem_append_right _ (List.mem_cons_of_mem _ hmem)
    exact (h.before_owns.append hfirst).append (hrest.append h.behind_owns)

/-- Every entry of the directory has its planting: its event is in one of them, as nothing
    outside is in the directory, and it is the one that the planting is named for, as all others
    are deeper. -/
theorem Planted.exists_planting (h : Planted events directory before plantings behind)
    {event : Event} (hevent : event ∈ events) {name : String}
    (hplace : event.place? = some (name :: directory)) :
    ∃ planting ∈ plantings, planting.place = name :: directory ∧ planting.made = event := by
  rw [h.events_eq] at hevent
  have hne : name :: directory ≠ directory := fun heq => List.cons_ne_self _ _ heq
  have hbelow : directory <:+ name :: directory := List.suffix_cons _ _
  simp only [List.mem_append, List.mem_flatMap] at hevent
  rcases hevent with (hevent | ⟨planting, hmem, hevent⟩) | hevent
  · exact absurd (h.outside event (List.mem_append_left _ hevent) _ hplace hbelow) hne
  · have hin := h.plantings_in planting hmem
    obtain ⟨own, hown⟩ := hin.name
    have hsame : planting.place = name :: directory :=
      (hin.at_or_below hevent hplace).eq_of_length (by rw [hown]; simp)
    refine ⟨planting, hmem, hsame, ?_⟩
    rcases List.mem_cons.1 hevent with heq | hinner
    · exact heq.symm
    · exact absurd hsame.symm (hin.below event hinner _ hplace).2
  · exact absurd (h.outside event (List.mem_append_right _ hevent) _ hplace hbelow) hne

end Planted

/-! ## What occurs below an entry

  `OccursIn` reads nothing but what can be seen from outside: the entries below a place, and the
  first line of each tag.  What is seen is led back to the event that brought it about. -/

/-- The identifier of the entry at a place: the name of a directory, the stem of a file's name. -/
def identifierAt? (view : Place → Option Entry) (place : Place) : Option String :=
  match view place with
  | some .directory => some (Path.lastName place)
  | some (.file _) => some (Generator.stem (Path.lastName place))
  | _ => none

/-- The identifier occurs in the subtree of an entry: it is the identifier of an entry below, or
    a tag that the ledger has first for the entry itself, if it is a file, or for a file below.
    Only the first line of a tag counts, for with that one the tag was minted. -/
inductive OccursIn (view : Place → Option Entry) (lines : List (String × String)) (place : Place)
    (identifier : String) : Prop where
  | entry {inner : Place} (hbelow : place <:+ inner) (hne : inner ≠ place)
    (hidentifier : identifierAt? view inner = some identifier)
  | tag {inner : Place} {content : ByteArray} (hbelow : place <:+ inner)
    (hfile : view inner = some (.file content))
    (hfirst : lines.find? (fun line => decide (line.2 = identifier)) =
      some (Path.lastName inner, identifier))

namespace History

/-- Entries are made once each. -/
theorem WellMade.places_nodup {history : History} (h : WellMade history) :
    (history.reverse.filterMap Event.place?).Nodup := by
  rw [List.filterMap_reverse, List.nodup_reverse]
  induction history with
  | nil => exact List.nodup_nil
  | cons event before ih =>
    obtain ⟨hbefore, hfree⟩ := h
    cases hplace : event.place? with
    | none =>
      rw [List.filterMap_cons_none hplace]
      exact ih hbefore
    | some place =>
      rw [List.filterMap_cons_some hplace, List.nodup_cons]
      refine ⟨fun hmem => ?_, ih hbefore⟩
      obtain ⟨earlier, hearlier, hsame⟩ := List.mem_filterMap.1 hmem
      have hthere := entryAt_of_mem hbefore hearlier hsame
      rw [hfree place hplace] at hthere
      cases hthere

variable {history : History} {place : Place} {event : Event} {identifier : String}

/-- The identifier of an entry is the one that its event used up. -/
theorem identifierAt?_of_mem (hwell : WellMade history) (hmem : event ∈ history)
    (hplace : event.place? = some place) :
    identifierAt? (entryAt history) place = event.uses? := by
  rw [identifierAt?, entryAt_of_mem hwell hmem hplace]
  cases event with
  | directory parent name =>
    cases hplace
    rfl
  | file parent name content =>
    cases hplace
    exact congrArg some (Generator.stem_append name)
  | discarded name => cases hplace
  | line owner tag => cases hplace
  | filled there depth slots files => cases hplace

/-- Every entry but the fixture directory was made by an event. -/
theorem exists_event_of_identifierAt? (hwell : WellMade history) (hne : place ≠ [])
    (h : identifierAt? (entryAt history) place = some identifier) :
    ∃ event ∈ history, event.place? = some place ∧ event.uses? = some identifier := by
  have hentry : ∃ entry, entryAt history place = some entry := by
    cases hview : entryAt history place with
    | none =>
      rw [identifierAt?, hview] at h
      cases h
    | some entry => exact ⟨entry, rfl⟩
  obtain ⟨entry, hentry⟩ := hentry
  obtain ⟨event, hmem, hplace, -⟩ := (exists_event_of_entryAt hentry).resolve_left hne
  exact ⟨event, hmem, hplace, by rw [← identifierAt?_of_mem hwell hmem hplace, h]⟩

/-- Every line of the ledger is in the record, behind the lines before it. -/
theorem exists_of_lines_eq {file tag : String} {before behind : List (String × String)}
    (h : lines history = before ++ (file, tag) :: behind) :
    ∃ front back, history.reverse = front ++ .line file tag :: back ∧
      front.filterMap Event.line? = before := by
  rw [lines_eq_filterMap] at h
  obtain ⟨front, rest, hhistory, hfront, hrest⟩ := List.filterMap_eq_append_iff.1 h
  obtain ⟨silent, event, back, hrest, hsilent, hevent, -⟩ := List.filterMap_eq_cons_iff.1 hrest
  obtain rfl : event = .line file tag := Event.eq_line_of_line? hevent
  refine ⟨front ++ silent, back, ?_, ?_⟩
  · rw [hhistory, hrest, List.append_assoc]
  · rw [List.filterMap_append, hfront, List.filterMap_eq_nil_iff.2 hsilent, List.append_nil]

/-- The first line of a tag uses it up. -/
theorem mints_line {front : List Event} {file tag : String}
    (h : tag ∉ (front.filterMap Event.line?).map Prod.snd) : Mints front (.line file tag) tag := by
  have hnew : tag ∉ tags front.reverse := by
    rw [mem_tags_iff, lines_eq_filterMap, List.reverse_reverse]
    exact h
  rw [Mints, usedUp, usedUp, List.reverse_append]
  show minted (.line file tag :: front.reverse) = _
  rw [minted, if_neg hnew]

/-- Where the first line of a tag is in the record, the tag is used up: the lines before it in
    the record are those before it in the ledger, and none of them has the tag. -/
theorem exists_mints_of_find? {file : String}
    (h : (lines history).find? (fun line => decide (line.2 = identifier)) =
      some (file, identifier)) :
    ∃ front back, history.reverse = front ++ .line file identifier :: back ∧
      Mints front (.line file identifier) identifier := by
  obtain ⟨-, before, behind, hlines, hfirst⟩ := List.find?_eq_some_iff_append.1 h
  obtain ⟨front, back, hhistory, hfront⟩ := exists_of_lines_eq hlines
  refine ⟨front, back, hhistory, mints_line ?_⟩
  rw [hfront]
  intro hmem
  obtain ⟨line, hline, htag⟩ := List.mem_map.1 hmem
  have hother := hfirst line hline
  simp [htag] at hother

end History

/-- What happens below an entry happens behind the entry's own event.  The record is cut in two
    ways, at the event and at the stretch; the cases are how the two cuts lie to each other, and
    all but one would have the event in front, at the back, or be the entry's own. -/
theorem Stretch.exists_inner {events front back early late : List Event} {planting : Planting}
    {event : Event} (h : Stretch events front planting back)
    (hsplit : events = early ++ event :: late) (hfront : event ∉ front) (hback : event ∉ back)
    (hmade : event ≠ planting.made) :
    ∃ middle rest, planting.inner = middle ++ event :: rest ∧
      early = front ++ planting.made :: middle := by
  have heq := h.events_eq
  rw [hsplit, Planting.events, List.append_assoc, List.cons_append] at heq
  rcases List.append_eq_append_iff.1 heq with ⟨more, rfl, hmore⟩ | ⟨more, rfl, hmore⟩
  · -- the event would be in front, or the entry's own
    cases more with
    | nil => exact absurd (List.cons.inj hmore).1 hmade
    | cons first more =>
      obtain ⟨rfl, -⟩ := List.cons.inj hmore
      exact absurd (by simp) hfront
  · cases more with
    | nil => exact absurd (List.cons.inj hmore).1.symm hmade
    | cons first middle =>
      obtain ⟨rfl, hinner⟩ := List.cons.inj hmore
      rcases List.append_eq_append_iff.1 hinner with ⟨last, rfl, hlast⟩ | ⟨last, hlast, hrest⟩
      · -- the event would be at the back
        rw [hlast] at hback
        exact absurd (by simp) hback
      · cases last with
        | nil =>
          rw [List.nil_append] at hrest
          rw [← hrest] at hback
          exact absurd (List.mem_cons_self ..) hback
        | cons first rest =>
          obtain ⟨rfl, -⟩ := List.cons.inj hrest
          exact ⟨middle, rest, hlast, rfl⟩

section Recorded

variable {codec : Codec} {depth unfilled : Nat} {progress : Progress}
  (h : Accounted codec depth [] unfilled progress)

include h

/-- **What occurs in the subtree of an entry is used up in the entry's stretch**, behind the entry's
    own identifier. -/
theorem Stretch.occurs {front back : List Event} {directory : Place} {planting : Planting}
    (hstretch : Stretch progress.history.reverse front planting back)
    (hin : planting.In directory) {identifier : String}
    (hoccurs : OccursIn progress.history.entryAt progress.history.lines planting.place
      identifier) :
    ∃ middle event rest, planting.inner = middle ++ event :: rest ∧
      event.uses? = some identifier ∧
      Mints (front ++ planting.made :: middle) event identifier := by
  obtain ⟨name, hname⟩ := hin.name
  cases hoccurs with
  | @entry inner hbelow hne hidentifier =>
    -- the entry below was made by an event; that is neither in front nor at the back, and not the
    -- entry's own
    have hnil : inner ≠ [] := by
      rintro rfl
      rw [hname, List.suffix_nil] at hbelow
      cases hbelow
    obtain ⟨event, hmem, hplace, huses⟩ :=
      History.exists_event_of_identifierAt? h.wellMade hnil hidentifier
    obtain ⟨early, late, hsplit⟩ := List.append_of_mem (List.mem_reverse.2 hmem)
    have hfront : event ∉ front := fun hevent =>
      hstretch.outside event (List.mem_append_left _ hevent) inner hplace hbelow
    have hback : event ∉ back := fun hevent =>
      hstretch.outside event (List.mem_append_right _ hevent) inner hplace hbelow
    have hmade : event ≠ planting.made := by
      rintro rfl
      rw [hin.made] at hplace
      exact hne (Option.some.inj hplace).symm
    obtain ⟨middle, rest, hinner, -⟩ := hstretch.exists_inner hsplit hfront hback hmade
    exact ⟨middle, event, rest, hinner, huses, mints_of_place? hplace huses _⟩
  | @tag inner content hbelow hfile hfirst =>
    obtain ⟨early, late, hsplit, hmints⟩ := History.exists_mints_of_find? hfirst
    -- the lines about a file are where the file is made, and no other file has its name
    have hout : .line (Path.lastName inner) identifier ∉ front ++ back := by
      intro hline
      obtain ⟨parent, stem, bytes, hmem, hfileName⟩ := hstretch.owns _ _ hline
      have hmade : .file parent stem bytes ∈ progress.history := by
        rw [← List.mem_reverse, hstretch.events_eq]
        simp only [List.mem_append] at hmem ⊢
        exact hmem.elim (fun hfront => Or.inl (Or.inl hfront)) Or.inr
      have hinner : inner ∈ progress.history.filePlaces := by
        rcases History.exists_event_of_entryAt hfile with rfl | ⟨event, hevent, hplace, hentry⟩
        · rw [hname, List.suffix_nil] at hbelow
          cases hbelow
        · exact History.mem_filePlaces.2 ⟨event, hevent, hplace, content, hentry⟩
      have hother : (stem ++ Generator.fileSuffix) :: parent ∈ progress.history.filePlaces :=
        History.mem_filePlaces.2 ⟨_, hmade, rfl, bytes, rfl⟩
      have hsame := List.inj_on_of_nodup_map h.fileNames_nodup hinner hother hfileName
      rw [hsame] at hbelow
      exact hstretch.outside _ hmem _ rfl hbelow
    obtain ⟨hfront, hback⟩ := not_or.1 (mt List.mem_append.2 hout)
    have hmade : .line (Path.lastName inner) identifier ≠ planting.made := by
      intro heq
      have hplace := hin.made
      rw [← heq] at hplace
      cases hplace
    obtain ⟨middle, rest, hinner, rfl⟩ := hstretch.exists_inner hsplit hfront hback hmade
    exact ⟨middle, _, rest, hinner, rfl, hmints⟩

end Recorded

/-! ## Numbers

  A statement about two entries of a directory is one about two of its plantings, and of those
  one comes first (`first_of_two`). -/

/-- The counter of the entry at a place. -/
def counterAt? (codec : Codec) (view : Place → Option Entry) (place : Place) : Option UInt64 :=
  (identifierAt? view place).bind codec.decode

/-- The identifiers number the entries of a directory and what is in their subtrees. -/
structure Numbered (codec : Codec) (view : Place → Option Entry) (lines : List (String × String))
    (directory : Place) : Prop where
  /-- Every entry has a counter. -/
  counted : ∀ name, view (name :: directory) ≠ none →
    ∃ k, counterAt? codec view (name :: directory) = some k
  /-- No two entries have the same. -/
  apart : ∀ name other k, counterAt? codec view (name :: directory) = some k →
    counterAt? codec view (other :: directory) = some k → name = other
  directories_first : ∀ name other content k l,
    view (name :: directory) = some .directory → view (other :: directory) = some (.file content) →
    counterAt? codec view (name :: directory) = some k →
    counterAt? codec view (other :: directory) = some l → k < l
  /-- What occurs in the subtree of an entry has a greater counter. -/
  above : ∀ name k, counterAt? codec view (name :: directory) = some k →
    ∀ identifier, OccursIn view lines (name :: directory) identifier →
      ∃ n, codec.decode identifier = some n ∧ k < n
  /-- What occurs in the subtree of an entry has a smaller counter than the entries that follow. -/
  between : ∀ name other k l, counterAt? codec view (name :: directory) = some k →
    counterAt? codec view (other :: directory) = some l → k < l →
    ∀ identifier, OccursIn view lines (name :: directory) identifier →
      ∃ n, codec.decode identifier = some n ∧ k < n ∧ n < l

/-- Of two items of a list, one comes first. -/
theorem first_of_two {α : Type} {items : List α} {a b : α} (ha : a ∈ items) (hb : b ∈ items) :
    a = b ∨ (∃ first middle last, items = first ++ a :: middle ++ b :: last) ∨
      ∃ first middle last, items = first ++ b :: middle ++ a :: last := by
  obtain ⟨first, last, rfl⟩ := List.append_of_mem ha
  rcases List.mem_append.1 hb with hb | hb
  · obtain ⟨front, middle, rfl⟩ := List.append_of_mem hb
    exact Or.inr (Or.inr ⟨front, middle, last, rfl⟩)
  · rcases List.mem_cons.1 hb with rfl | hb
    · exact Or.inl rfl
    · obtain ⟨middle, back, rfl⟩ := List.append_of_mem hb
      exact Or.inr (Or.inl ⟨first, middle, back, by simp⟩)

section Numbers

variable {codec : Codec} {depth unfilled : Nat} {progress : Progress} {directory : Place}
  {before behind : List Event} {plantings : List Planting}
  (h : Accounted codec depth [] unfilled progress)
  (hplanted : Planted progress.history.reverse directory before plantings behind)

include h hplanted

/-- **An entry is numbered before all that is below it**: its own event is the first one of its
    stretch. -/
theorem Planted.number_above {planting : Planting} (hmem : planting ∈ plantings)
    {own identifier : String} (hown : planting.made.uses? = some own)
    (hoccurs : OccursIn progress.history.entryAt progress.history.lines planting.place
      identifier) :
    ∃ k n, codec.decode own = some k ∧ codec.decode identifier = some n ∧ k < n := by
  obtain ⟨first, rest, rfl⟩ := List.append_of_mem hmem
  have hstretch := hplanted.stretch h.wellMade.places_nodup
  obtain ⟨middle, event, late, hinner, -, hmints⟩ :=
    hstretch.occurs h (hplanted.plantings_in planting hmem) hoccurs
  have hhistory : progress.history.reverse =
      (before ++ first.flatMap Planting.events ++ planting.made :: middle) ++
        event :: (late ++ (rest.flatMap Planting.events ++ behind)) := by
    rw [hstretch.events_eq, Planting.events, hinner]
    simp only [List.append_assoc, List.cons_append]
  exact h.counter_lt hhistory (mem_usedUp.2 ⟨planting.made, by simp, hown⟩) hmints

/-- **An entry and all that is below it are numbered before the entries that are made later**,
    for the stretch of the one ends before that of the other begins. -/
theorem Planted.number_before {first middle last : List Planting} {planting later : Planting}
    (hplantings : plantings = first ++ planting :: middle ++ later :: last)
    {own next : String} (hown : planting.made.uses? = some own)
    (hnext : later.made.uses? = some next) {identifier : String}
    (hidentifier : identifier = own ∨ OccursIn progress.history.entryAt progress.history.lines
      planting.place identifier) :
    ∃ n l, codec.decode identifier = some n ∧ codec.decode next = some l ∧ n < l := by
  -- up to the later entry, the plantings before it have used up what is in them
  have hlater : later ∈ plantings := by simp [hplantings]
  have hplace := (hplanted.plantings_in later hlater).made
  have hhistory : progress.history.reverse =
      (before ++ (first ++ planting :: middle).flatMap Planting.events) ++
        later.made :: (later.inner ++ last.flatMap Planting.events ++ behind) := by
    rw [hplanted.events_eq, hplantings, List.flatMap_append, List.flatMap_cons]
    simp only [Planting.events, List.append_assoc, List.cons_append]
  refine h.counter_lt hhistory ?_ (mints_of_place? hplace hnext _)
  rw [mem_usedUp]
  rcases hidentifier with rfl | hoccurs
  · exact ⟨planting.made, by simp [Planting.events], hown⟩
  · obtain ⟨hin, hplanted'⟩ : planting.In directory ∧ Planted progress.history.reverse directory
        before (first ++ planting :: (middle ++ later :: last)) behind := by
      refine ⟨hplanted.plantings_in planting (by simp [hplantings]), ?_⟩
      rw [← List.cons_append, ← List.append_assoc, ← hplantings]
      exact hplanted
    obtain ⟨early, event, late, hinner, huses, -⟩ :=
      (hplanted'.stretch h.wellMade.places_nodup).occurs h hin hoccurs
    exact ⟨event, by simp [Planting.events, hinner], huses⟩

/-- An entry of the directory has a planting, and its counter is that of the identifier that its
    making used up. -/
theorem Planted.exists_counted {name : String} {entry : Entry}
    (hentry : progress.history.entryAt (name :: directory) = some entry) :
    ∃ planting ∈ plantings, planting.place = name :: directory ∧ planting.made.entry = entry ∧
      ∃ own k, planting.made.uses? = some own ∧ codec.decode own = some k ∧
        counterAt? codec progress.history.entryAt (name :: directory) = some k := by
  obtain ⟨event, hmem, hplace, hmade⟩ :=
    (History.exists_event_of_entryAt hentry).resolve_left (List.cons_ne_nil _ _)
  obtain ⟨planting, hplanting, hsame, rfl⟩ :=
    hplanted.exists_planting (List.mem_reverse.2 hmem) hplace
  obtain ⟨own, hown⟩ : ∃ own, planting.made.uses? = some own := by
    cases hevent : planting.made with
    | directory parent identifier => exact ⟨identifier, rfl⟩
    | file parent identifier content => exact ⟨identifier, rfl⟩
    | discarded identifier =>
      rw [hevent] at hplace
      cases hplace
    | line owner tag => exact ⟨tag, rfl⟩
    | filled there depth slots files =>
      rw [hevent] at hplace
      cases hplace
  have hused : own ∈ progress.history.minted := by
    rw [← List.reverse_reverse progress.history]
    exact mem_usedUp.2 ⟨_, List.mem_reverse.2 hmem, hown⟩
  obtain ⟨k, -, hk⟩ := h.exists_counter (List.mem_append_left _ hused)
  have hdecode : codec.decode own = some k := by rw [hk, codec.decode_encode]
  refine ⟨planting, hplanting, hsame, hmade, own, k, hown, hdecode, ?_⟩
  rw [counterAt?, History.identifierAt?_of_mem h.wellMade hmem hplace, hown, Option.bind_some,
    hdecode]

/-- Of two entries the one that was made first has the smaller counter. -/
theorem Planted.counter_lt {first middle last : List Planting} {planting later : Planting}
    (hplantings : plantings = first ++ planting :: middle ++ later :: last) {own next : String}
    (hown : planting.made.uses? = some own) (hnext : later.made.uses? = some next) {k l : UInt64}
    (hk : codec.decode own = some k) (hl : codec.decode next = some l) : k < l := by
  obtain ⟨k', l', hk', hl', hlt⟩ := number_before h hplanted hplantings hown hnext (Or.inl rfl)
  rw [hk] at hk'
  rw [hl] at hl'
  cases hk'
  cases hl'
  exact hlt

/-- Of two entries the one with the smaller counter was made first.  This is where what a reader
    sees, the counters, is turned back into the order of the record. -/
theorem Planted.first_of_counter_lt {planting later : Planting} (hmem : planting ∈ plantings)
    (hlater : later ∈ plantings) {own next : String} (hown : planting.made.uses? = some own)
    (hnext : later.made.uses? = some next) {k l : UInt64} (hk : codec.decode own = some k)
    (hl : codec.decode next = some l) (hlt : k < l) :
    ∃ first middle last, plantings = first ++ planting :: middle ++ later :: last := by
  rcases first_of_two hmem hlater with rfl | hfirst | ⟨_, _, _, hfirst⟩
  · cases hown.symm.trans hnext
    cases hk.symm.trans hl
    exact absurd hlt (UInt64.lt_irrefl k)
  · exact hfirst
  · exact absurd hlt (UInt64.lt_asymm (hplanted.counter_lt h hfirst hnext hown hl hk))

/-- A directory has a smaller counter than a file beside it. -/
theorem Planted.directory_lt_file {planting other : Planting} (hmem : planting ∈ plantings)
    (hother : other ∈ plantings) (hdirectory : planting.made.entry = .directory)
    {content : ByteArray} (hfile : other.made.entry = .file content) {own next : String}
    (hown : planting.made.uses? = some own) (hnext : other.made.uses? = some next) {k l : UInt64}
    (hk : codec.decode own = some k) (hl : codec.decode next = some l) : k < l := by
  rcases first_of_two hmem hother with rfl | ⟨_, _, _, hfirst⟩ | ⟨first, middle, last, hfirst⟩
  · rw [hdirectory] at hfile
    cases hfile
  · exact hplanted.counter_lt h hfirst hown hnext hk hl
  · -- a directory is not made after a file
    have hordered := hplanted.ordered
    rw [hfirst, List.append_assoc, List.pairwise_append] at hordered
    have hbefore := (List.pairwise_cons.1 hordered.2.1).1 planting (by simp) hdirectory
    rw [hfile] at hbefore
    cases hbefore

/-- Where an entry has a counter, it has a planting with that counter. -/
theorem Planted.exists_of_counterAt? {name : String} {k : UInt64}
    (hcounter : counterAt? codec progress.history.entryAt (name :: directory) = some k) :
    ∃ planting ∈ plantings, planting.place = name :: directory ∧
      progress.history.entryAt (name :: directory) = some planting.made.entry ∧
      ∃ own, planting.made.uses? = some own ∧ codec.decode own = some k := by
  cases hentry : progress.history.entryAt (name :: directory) with
  | none =>
    rw [counterAt?, identifierAt?, hentry] at hcounter
    cases hcounter
  | some entry =>
    obtain ⟨planting, hmem, hplace, hmade, own, k', hown, hdecode, hcounter'⟩ :=
      hplanted.exists_counted h hentry
    cases hcounter.symm.trans hcounter'
    exact ⟨planting, hmem, hplace, by rw [hmade], own, hown, hdecode⟩

/-- **The entries of a directory and what is below them are numbered in order.** -/
theorem Planted.numbered :
    Numbered codec progress.history.entryAt progress.history.lines directory where
  counted := by
    intro name hentry
    obtain ⟨entry, hentry⟩ := Option.ne_none_iff_exists'.1 hentry
    obtain ⟨-, -, -, -, -, k, -, -, hcounter⟩ := hplanted.exists_counted h hentry
    exact ⟨k, hcounter⟩
  apart := by
    intro name other k hname hother
    obtain ⟨planting, hmem, hplace, -, own, hown, hk⟩ := hplanted.exists_of_counterAt? h hname
    obtain ⟨later, hlater, hplace', -, next, hnext, hl⟩ := hplanted.exists_of_counterAt? h hother
    -- two plantings with one counter: neither can be the first
    rcases first_of_two hmem hlater with rfl | ⟨_, _, _, hfirst⟩ | ⟨_, _, _, hfirst⟩
    · exact (List.cons.inj (hplace.symm.trans hplace')).1
    · exact absurd (hplanted.counter_lt h hfirst hown hnext hk hl) (UInt64.lt_irrefl k)
    · exact absurd (hplanted.counter_lt h hfirst hnext hown hl hk) (UInt64.lt_irrefl k)
  directories_first := by
    intro name other content k l hdirectory hfile hname hother
    obtain ⟨planting, hmem, -, hentry, own, hown, hk⟩ := hplanted.exists_of_counterAt? h hname
    obtain ⟨later, hlater, -, hentry', next, hnext, hl⟩ := hplanted.exists_of_counterAt? h hother
    rw [hdirectory, Option.some.injEq] at hentry
    rw [hfile, Option.some.injEq] at hentry'
    exact hplanted.directory_lt_file h hmem hlater hentry.symm hentry'.symm hown hnext hk hl
  above := by
    intro name k hname identifier hoccurs
    obtain ⟨planting, hmem, hplace, -, own, hown, hk⟩ := hplanted.exists_of_counterAt? h hname
    rw [← hplace] at hoccurs
    obtain ⟨k', n, hk', hn, hlt⟩ := hplanted.number_above h hmem hown hoccurs
    cases hk.symm.trans hk'
    exact ⟨n, hn, hlt⟩
  between := by
    intro name other k l hname hother hlt identifier hoccurs
    obtain ⟨planting, hmem, hplace, -, own, hown, hk⟩ := hplanted.exists_of_counterAt? h hname
    obtain ⟨later, hlater, -, -, next, hnext, hl⟩ := hplanted.exists_of_counterAt? h hother
    rw [← hplace] at hoccurs
    -- the entry with the smaller counter was made first, with all that is below it
    obtain ⟨first, middle, last, hfirst⟩ :=
      hplanted.first_of_counter_lt h hmem hlater hown hnext hk hl hlt
    obtain ⟨k', n, hk', hn, habove⟩ := hplanted.number_above h hmem hown hoccurs
    obtain ⟨n', l', hn', hl', hbefore⟩ :=
      hplanted.number_before h hfirst hown hnext (Or.inr hoccurs)
    cases hk.symm.trans hk'
    cases hl.symm.trans hl'
    cases hn.symm.trans hn'
    exact ⟨n, hn, habove, hbefore⟩

end Numbers

end Thicket
