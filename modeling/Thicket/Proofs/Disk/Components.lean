/-
  Pieces and components.

  A path is walked by its pieces and written by its components.  Making all directories of a path
  goes from one to the other and back: it takes the path apart into components, leaves some of
  them off, and writes the others as a path again, which is then walked.  Three results make this
  a matter of the components alone.

  1. **Reading** — pieces that are empty or a point take a walk nowhere; what is left of them are
     the steps, and these can be read off the components too (`spells_components`).
  2. **Writing** — written as a path again, the first components of a path have the steps that
     belong to them (`WellFormed.spells`), and start where the whole path does.
  3. **Joining** — a plain name joined to a path is one component more (`components_join`),
     whether or not the path ends in a slash.

  The root and a leading point are components that stand only at the front; all others are inner
  ones, made of a piece (`Component.IsInner`).
-/
import Thicket.Proofs.Disk.PlainName

namespace Thicket

/-! ## Pieces that count

  What a walk does with a piece that is empty or a point is to go on with the next one. -/

namespace Path

/-- The pieces that take a walk somewhere. -/
def steps (pieces : List String) : List String :=
  pieces.filter fun piece => decide (¬ (piece = "" ∨ piece = "."))

theorem steps_cons_of_idle {piece : String} (h : piece = "" ∨ piece = ".") (rest : List String) :
    steps (piece :: rest) = steps rest :=
  List.filter_cons_of_neg fun hcounts => of_decide_eq_true hcounts h

theorem steps_cons {piece : String} (h : ¬ (piece = "" ∨ piece = ".")) (rest : List String) :
    steps (piece :: rest) = piece :: steps rest :=
  List.filter_cons_of_pos (decide_eq_true h)

/-- The steps of a path whose link was replaced by its target. -/
theorem steps_append (front back : List String) :
    steps (front ++ back) = steps front ++ steps back :=
  List.filter_append ..

/-- Slashes take a walk nowhere. -/
theorem steps_eq_nil_of_all {rest : List String}
    (h : rest.all (fun piece => decide (piece = "")) = true) : steps rest = [] := by
  rw [steps, List.filter_eq_nil_iff]
  intro piece hpiece
  have hempty : piece = "" := of_decide_eq_true (List.all_eq_true.1 h piece hpiece)
  exact fun hcounts => of_decide_eq_true hcounts (Or.inl hempty)

/-- Where a path starts that is read at a place. -/
def startFrom (place : Place) (path : String) : Place := if isAbsolute path then [] else place

/-- A path is absolute if an empty piece is the first of several. -/
theorem isAbsolute_iff {path : String} :
    isAbsolute path = true ↔ ∃ rest, rest ≠ [] ∧ split path = "" :: rest := by
  rw [isAbsolute, split, beq_iff_eq]
  cases path.toList with
  | nil => simp [splitChars]
  | cons c chars =>
    rw [List.head?_cons, Option.some.injEq, splitChars]
    by_cases hslash : c = '/'
    · rw [if_pos hslash]
      have hrest : (splitChars chars).map String.ofList ≠ [] := by
        rw [ne_eq, List.map_eq_nil_iff]
        exact splitChars_ne_nil chars
      exact ⟨fun _ => ⟨_, hrest, rfl⟩, fun _ => hslash⟩
    · rw [if_neg hslash]
      constructor
      · intro h
        exact absurd h hslash
      · -- the first piece begins with the symbol
        rintro ⟨rest, -, hsplit⟩
        cases hchars : splitChars chars with
        | nil => exact absurd hchars (splitChars_ne_nil chars)
        | cons piece pieces =>
          rw [hchars] at hsplit
          have hfirst := congrArg String.toList (List.cons.inj hsplit).1
          simp at hfirst

/-- Between slashes the texts are the pieces. -/
theorem split_intercalate {texts : List String} (hne : texts ≠ [])
    (h : ∀ text ∈ texts, '/' ∉ text.toList) : split ("/".intercalate texts) = texts := by
  induction texts with
  | nil => exact absurd rfl hne
  | cons first rest ih =>
    obtain ⟨hfirst, hrest⟩ := List.forall_mem_cons.1 h
    cases rest with
    | nil => rw [String.intercalate_singleton, split_of_no_slash hfirst]
    | cons second rest =>
      rw [String.intercalate_cons_cons, split_append, split_of_no_slash hfirst,
        ih (List.cons_ne_nil _ _) hrest]
      rfl

/-! ## Components

  The components of a path are those of its pieces, with one in front that says where it starts
  if the pieces do not. -/

namespace Component

/-- The step that a component stands for inside a path. -/
def step? : Component → Option String
  | root => none
  | here => none
  | above => some ".."
  | name text => some text

/-- The component can stand anywhere in a path. -/
def IsInner (component : Component) : Prop :=
  ∃ piece, '/' ∉ piece.toList ∧ ofPiece? piece = some component

/-- A piece is the text of its component, and its step. -/
theorem text_of_ofPiece? {piece : String} {component : Component}
    (h : ofPiece? piece = some component) :
    component.text = piece ∧ component.step? = some piece ∧ ¬ (piece = "" ∨ piece = ".") := by
  rw [ofPiece?] at h
  by_cases hidle : piece = "" ∨ piece = "."
  · rw [if_pos hidle] at h
    cases h
  · rw [if_neg hidle] at h
    by_cases habove : piece = ".."
    · rw [if_pos habove] at h
      cases h
      exact ⟨habove.symm, congrArg some habove.symm, hidle⟩
    · rw [if_neg habove] at h
      cases h
      exact ⟨rfl, rfl, hidle⟩

theorem IsInner.ne_root {component : Component} (h : component.IsInner) : component ≠ .root := by
  obtain ⟨piece, -, hpiece⟩ := h
  rintro rfl
  have hstep := (text_of_ofPiece? hpiece).2.1
  cases hstep

end Component

/-- The steps of a path are those of its pieces' components. -/
theorem steps_eq_filterMap (pieces : List String) :
    steps pieces = (pieces.filterMap Component.ofPiece?).filterMap Component.step? := by
  induction pieces with
  | nil => rfl
  | cons piece rest ih =>
    by_cases hidle : piece = "" ∨ piece = "."
    · have hpiece : Component.ofPiece? piece = none := if_pos hidle
      rw [steps_cons_of_idle hidle, ih, List.filterMap_cons_none hpiece]
    · cases hpiece : Component.ofPiece? piece with
      | none =>
        rw [Component.ofPiece?, if_neg hidle] at hpiece
        split at hpiece <;> cases hpiece
      | some component =>
        have hstep := (Component.text_of_ofPiece? hpiece).2.1
        rw [steps_cons hidle, ih, List.filterMap_cons_some hpiece, List.filterMap_cons_some hstep]

/-- Components of which a path can consist: inner ones, perhaps behind the root or a leading
    point. -/
inductive WellFormed : List Component → Prop where
  | inner {inner : List Component} (h : ∀ component ∈ inner, component.IsInner) : WellFormed inner
  | rooted {inner : List Component} (h : ∀ component ∈ inner, component.IsInner) :
    WellFormed (.root :: inner)
  | pointed {inner : List Component} (h : ∀ component ∈ inner, component.IsInner) :
    WellFormed (.here :: inner)

/-- The components tell where a path starts and which steps it takes. -/
structure Spells (path : String) (components : List Component) : Prop where
  steps_eq : steps (split path) = components.filterMap Component.step?
  absolute_iff : isAbsolute path = true ↔ Component.root ∈ components

theorem isInner_of_mem (path : String) :
    ∀ component ∈ (split path).filterMap Component.ofPiece?, component.IsInner := by
  intro component hmem
  obtain ⟨piece, hpiece, hcomponent⟩ := List.mem_filterMap.1 hmem
  exact ⟨piece, no_slash_of_mem_split hpiece, hcomponent⟩

theorem root_not_mem_of_isInner {inner : List Component}
    (h : ∀ component ∈ inner, component.IsInner) : Component.root ∉ inner :=
  fun hmem => (h _ hmem).ne_root rfl

/-- The components of a path are such of which a path can consist. -/
theorem wellFormed_components (path : String) : WellFormed (components path) := by
  rw [components]
  split
  · exact .rooted (isInner_of_mem path)
  · split
    · exact .pointed (isInner_of_mem path)
    · exact .inner (isInner_of_mem path)

/-- **A path is spelled by its components.** -/
theorem spells_components (path : String) : Spells path (components path) := by
  have hroot := root_not_mem_of_isInner (isInner_of_mem path)
  rw [components]
  split
  · rename_i habsolute
    exact ⟨steps_eq_filterMap _, by simp [habsolute]⟩
  · rename_i habsolute
    split
    · exact ⟨steps_eq_filterMap _, by simp [habsolute, hroot]⟩
    · exact ⟨steps_eq_filterMap _, by simp [habsolute, hroot]⟩

/-- Without its last component a path is well formed as before, so the induction over the
    directories above can go on. -/
theorem WellFormed.of_append_singleton {components : List Component} {last : Component}
    (h : WellFormed (components ++ [last])) : WellFormed components := by
  generalize hall : components ++ [last] = all at h
  cases h with
  | inner h =>
    subst hall
    exact .inner fun component hmem => h component (List.mem_append_left _ hmem)
  | rooted h =>
    cases components with
    | nil => exact .inner (by simp)
    | cons first rest =>
      obtain ⟨rfl, rfl⟩ := List.cons.inj hall
      exact .rooted fun component hmem => h component (List.mem_append_left _ hmem)
  | pointed h =>
    cases components with
    | nil => exact .inner (by simp)
    | cons first rest =>
      obtain ⟨rfl, rfl⟩ := List.cons.inj hall
      exact .pointed fun component hmem => h component (List.mem_append_left _ hmem)

/-- A step to the directory above is no name. -/
theorem WellFormed.name_above_not_mem {components : List Component} (h : WellFormed components) :
    Component.name ".." ∉ components := by
  have hinner : ¬ (Component.name "..").IsInner := by
    rintro ⟨piece, -, hpiece⟩
    obtain ⟨htext, -, -⟩ := Component.text_of_ofPiece? hpiece
    rw [← htext] at hpiece
    cases hpiece
  cases h with
  | inner h => exact fun hmem => hinner (h _ hmem)
  | rooted h =>
    intro hmem
    rcases List.mem_cons.1 hmem with heq | hmem
    · cases heq
    · exact hinner (h _ hmem)
  | pointed h =>
    intro hmem
    rcases List.mem_cons.1 hmem with heq | hmem
    · cases heq
    · exact hinner (h _ hmem)

/-- Only a piece that says so steps to the directory above. -/
theorem above_not_mem_components {path : String} (h : ".." ∉ split path) :
    Component.above ∉ components path := by
  have hinner : Component.above ∉ (split path).filterMap Component.ofPiece? := by
    intro hmem
    obtain ⟨piece, hpiece, habove⟩ := List.mem_filterMap.1 hmem
    obtain ⟨htext, -, -⟩ := Component.text_of_ofPiece? habove
    rw [← htext] at hpiece
    exact h hpiece
  rw [components]
  split
  · simpa using hinner
  · split
    · simpa using hinner
    · exact hinner

/-! ## Written as a path

  The texts of the components with slashes between them.  Cut at the slashes they are the texts
  again (`split_intercalate`), provided that there is at least one. -/

section Written

variable {inner : List Component} (h : ∀ component ∈ inner, component.IsInner)

include h

/-- Inner components are written as texts that stand for steps. -/
theorem texts_of_isInner : ∀ text ∈ inner.map Component.text,
    '/' ∉ text.toList ∧ ¬ (text = "" ∨ text = ".") := by
  intro text hmem
  obtain ⟨component, hcomponent, rfl⟩ := List.mem_map.1 hmem
  obtain ⟨piece, hslash, hpiece⟩ := h component hcomponent
  obtain ⟨htext, -, hidle⟩ := Component.text_of_ofPiece? hpiece
  rw [htext]
  exact ⟨hslash, hidle⟩

/-- The steps of inner components are their texts. -/
theorem filterMap_step?_of_isInner :
    inner.filterMap Component.step? = steps (inner.map Component.text) := by
  induction inner with
  | nil => rfl
  | cons component rest ih =>
    obtain ⟨⟨piece, -, hpiece⟩, hrest⟩ := List.forall_mem_cons.1 h
    obtain ⟨htext, hstep, hidle⟩ := Component.text_of_ofPiece? hpiece
    rw [List.filterMap_cons_some hstep, ih hrest, List.map_cons, htext, steps_cons hidle]

/-- Written and cut, inner components give their own steps. -/
theorem steps_split_of_isInner :
    steps (split ("/".intercalate (inner.map Component.text))) =
      inner.filterMap Component.step? := by
  rw [filterMap_step?_of_isInner h]
  by_cases hnil : inner = []
  · rw [hnil]
    decide +kernel
  · rw [split_intercalate (by simpa using hnil) fun text hmem => (texts_of_isInner h text hmem).1]

/-- Without the root a path is relative. -/
theorem not_isAbsolute_of_isInner :
    ¬ isAbsolute ("/".intercalate (inner.map Component.text)) = true := by
  rw [isAbsolute_iff]
  rintro ⟨rest, hrest, hsplit⟩
  by_cases hnil : inner = []
  · subst hnil
    exact hrest (List.cons.inj hsplit).2.symm
  · rw [split_intercalate (by simpa using hnil) fun text hmem => (texts_of_isInner h text hmem).1]
      at hsplit
    have hempty : "" ∈ inner.map Component.text := by
      rw [hsplit]
      exact List.mem_cons_self ..
    exact (texts_of_isInner h "" hempty).2 (Or.inl rfl)

end Written

/-- **Components written as a path spell it.** -/
theorem WellFormed.spells {components : List Component} (h : WellFormed components) :
    Spells (ofComponents components) components := by
  cases h with
  | inner h =>
    have hroot := root_not_mem_of_isInner h
    have hwritten : ofComponents components = "/".intercalate (components.map Component.text) := by
      cases components with
      | nil => rfl
      | cons first rest =>
        cases first with
        | root => exact absurd (List.mem_cons_self ..) hroot
        | here => rfl
        | above => rfl
        | name text => rfl
    rw [hwritten]
    exact ⟨steps_split_of_isInner h, by simp [not_isAbsolute_of_isInner h, hroot]⟩
  | @rooted inner h =>
    -- the root is written as an empty piece in front
    have hsplit : split (ofComponents (.root :: inner)) =
        "" :: split ("/".intercalate (inner.map Component.text)) := by
      have happend := split_append "" ("/".intercalate (inner.map Component.text))
      rw [String.empty_append] at happend
      exact happend
    constructor
    · rw [hsplit, steps_cons_of_idle (Or.inl rfl), steps_split_of_isInner h]
      rfl
    · have hne : split ("/".intercalate (inner.map Component.text)) ≠ [] := by
        rw [split, ne_eq, List.map_eq_nil_iff]
        exact splitChars_ne_nil _
      have habsolute := isAbsolute_iff.2 ⟨_, hne, hsplit⟩
      exact ⟨fun _ => List.mem_cons_self .., fun _ => habsolute⟩
  | @pointed inner h =>
    -- no text has a slash in it, so cutting gives the texts back
    have htexts : ∀ text ∈ "." :: inner.map Component.text, '/' ∉ text.toList :=
      List.forall_mem_cons.2 ⟨by decide, fun text hmem => (texts_of_isInner h text hmem).1⟩
    have hsplit : split (ofComponents (.here :: inner)) = "." :: inner.map Component.text :=
      split_intercalate (List.cons_ne_nil _ _) htexts
    constructor
    · rw [hsplit, steps_cons_of_idle (Or.inr rfl), ← filterMap_step?_of_isInner h]
      rfl
    · rw [isAbsolute_iff, hsplit]
      simp [root_not_mem_of_isInner h]

/-! ## Joined to a path -/

/-- The beginning of a text is that of the whole. -/
theorem isAbsolute_append {front : String} (h : front ≠ "") (back : String) :
    isAbsolute (front ++ back) = isAbsolute front := by
  have hne : front.toList ≠ [] := by simpa using h
  obtain ⟨c, rest, hfront⟩ := List.exists_cons_of_ne_nil hne
  rw [isAbsolute, isAbsolute, String.toList_append, hfront]
  rfl

/-- More pieces at the end leave the first one as it is. -/
theorem head?_split_append (path : String) (pieces : List String) :
    (split path ++ pieces).head? = (split path).head? := by
  have hne : split path ≠ [] := by
    rw [split, ne_eq, List.map_eq_nil_iff]
    exact splitChars_ne_nil _
  obtain ⟨first, rest, hsplit⟩ := List.exists_cons_of_ne_nil hne
  rw [hsplit]
  rfl

/-- The pieces of a path with a slash at its end. -/
theorem split_append_slash_nil (path : String) : split (path ++ "/") = split path ++ [""] := by
  have happend := split_append path ""
  rw [String.append_empty] at happend
  exact happend

/-- Behind a slash a plain name is one component more. -/
theorem components_append_name (front : String) {name : String} (h : isPlainName name = true) :
    components (front ++ "/" ++ name) = components (front ++ "/") ++ [.name name] := by
  obtain ⟨hempty, hhere, habove, hslash⟩ := isPlainName_iff.1 h
  have hpiece : Component.ofPiece? name = some (.name name) := by
    simp [Component.ofPiece?, hempty, hhere, habove]
  have hidle : Component.ofPiece? "" = none := if_pos (Or.inl rfl)
  have hne : front ++ "/" ≠ "" := by simp
  -- both sides are taken to pieces; the empty one behind the slash is no component
  rw [components, components, isAbsolute_append hne, split_append_slash front hslash,
    split_append_slash_nil, head?_split_append, head?_split_append, List.filterMap_append,
    List.filterMap_append, List.filterMap_cons_some hpiece, List.filterMap_cons_none hidle,
    List.filterMap_nil, List.append_nil]
  -- the name is the last step, wherever the path starts
  split
  · rw [List.cons_append]
  · split
    · rw [List.cons_append]
    · rfl

/-- A slash at the end of a path is no component. -/
theorem components_append_slash {front : String} (h : front ≠ "") :
    components (front ++ "/") = components front := by
  have hidle : Component.ofPiece? "" = none := if_pos (Or.inl rfl)
  rw [components, components, isAbsolute_append h, split_append_slash_nil, head?_split_append,
    List.filterMap_append, List.filterMap_cons_none hidle, List.filterMap_nil, List.append_nil]

/-- **A plain name joined to a path is one component more.** -/
theorem components_join {directory name : String} (hdirectory : directory ≠ "")
    (hname : isPlainName name = true) :
    components (join directory name) = components directory ++ [.name name] := by
  rw [join]
  by_cases hend : directory.toList.getLast? = some '/'
  · obtain ⟨front, hfront⟩ := List.getLast?_eq_some_iff.1 hend
    have hcut : directory = String.ofList front ++ "/" := by
      rw [← String.toList_inj, hfront, String.toList_append, String.toList_ofList]
      rfl
    rw [if_pos hend, hcut, components_append_name _ hname]
  · rw [if_neg hend, components_append_name _ hname, components_append_slash hdirectory]

end Path

end Thicket
