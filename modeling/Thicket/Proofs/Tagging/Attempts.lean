/-
  Drawing a tag, attempt by attempt.

  An attempt takes a sample and gives a tag (`Attempt`).  If the sample is below the density and
  there are tags in use, it gives one of them and nothing but the source has changed; otherwise the
  tag is the identifier of the counter, which goes up by one (`Attempt.outcome`).

  A file that has tags already repeats attempts as long as they give one of those (`Rounds`).  That
  is what the program does, and it does so under all patience that is enough (`picks_iff`,
  `Rounds.settles_of_not_mem`).

  The program's redrawing has a bound and the rounds have none, so the two are compared in both
  directions:

  1. **From rounds to the program** — with patience enough for each attempt, the rounds use up as
     many attempts as there are samples, and what ends the attempt behind them ends the redrawing
     (`Rounds.settles`).
  2. **From the program to rounds** — a tag that the redrawing gives comes from an attempt behind
     some rounds (`exists_rounds_of_tries`), by induction on the attempts that it was allowed.
-/
import Thicket.Proofs.Codec.RoundTrip
import Thicket.Proofs.Random.Gives
import Thicket.Proofs.Random.Patience
import Thicket.Tagging

namespace Thicket

variable {σ α : Type}

/-! ## Draws of a making

  A draw changes the source of a plot and nothing else in it. -/

namespace Making

variable {draw : Draw σ α} {plot : Plot σ} {source : σ}

theorem run_draw_of_ok {a : α} (h : draw plot.source = .ok a source) :
    Making.draw draw plot = .ok a { plot with source } := by
  rw [Making.draw, onWorld, Act.draw, h]

theorem run_draw_of_error {reason : Mishap} (h : draw plot.source = .error reason source) :
    Making.draw draw plot = .error (.mishap reason) { plot with source } := by
  rw [Making.draw, onWorld, Act.draw, h]

theorem lasting_draw {draw : Nat → Draw σ α} (h : Lasting Mishap.stalled draw) :
    Lasting (Stop.mishap .stalled) fun patience => Making.draw (draw patience) := by
  intro patience more plot hmore hends
  dsimp only at hends ⊢
  cases hresult : draw patience plot.source with
  | ok a source =>
    have hmoreResult := h patience more plot.source hmore (by simp [hresult])
    rw [run_draw_of_ok hresult, run_draw_of_ok (hmoreResult.trans hresult)]
  | error reason source =>
    have hother : ∀ after, draw patience plot.source ≠ .error .stalled after := by
      intro after hstalled
      exact hends _ (run_draw_of_error hstalled)
    have hmoreResult := h patience more plot.source hmore hother
    rw [run_draw_of_error hresult, run_draw_of_error (hmoreResult.trans hresult)]

end Making

namespace Generator

/-- The generator with another patience. -/
def withPatience (generator : Generator) (patience : Nat) : Generator := { generator with patience }

variable [WordSource σ] {generator : Generator}

/-! ## More patience

  Patience is for numbers first and for tags then; both kinds of redrawing last. -/

/-- A pick does the same under all greater patience, unless it gives up. -/
theorem lasting_pickTag (generator : Generator) :
    Lasting (τ := Plot σ) (Stop.mishap .stalled)
      fun patience => (generator.withPatience patience).pickTag := by
  refine (lasting_const (Making.draw Draw.unit)).bind fun sample => ?_
  refine Lasting.ite (generator.settings.tagDensity.exceedsSample sample = true) ?_
    (lasting_const (Making.nextIdentifier generator.codec))
  refine (lasting_const get).bind fun plot => ?_
  refine (Making.lasting_draw (Draw.lasting_choose (σ := σ) plot.pool.order)).bind fun choice => ?_
  cases choice with
  | none => exact lasting_const (Making.nextIdentifier generator.codec)
  | some tag => exact lasting_const (pure tag)

theorem lasting_pickOtherTag (generator : Generator) (taken : List String) :
    Lasting (τ := Plot σ) (Stop.mishap .stalled)
      fun patience => (generator.withPatience patience).pickOtherTag taken :=
  ((lasting_pickTag generator).bind fun tag =>
    lasting_const (pure (if taken.contains tag then none else some tag))).retry

/-! ## Attempts

  The sample says which of two ways a pick takes, and the pool whether the first of them is
  open. -/

/-- What a pick does where the sample is known. -/
theorem run_pickTag {plot : Plot σ} {sample : Binary64.Sample} {source : σ}
    (h : Draw.unit plot.source = .ok sample source) :
    generator.pickTag plot =
      if generator.settings.tagDensity.exceedsSample sample then
        match Draw.choose generator.patience plot.pool.order source with
        | .ok (some tag) source => .ok tag { plot with source }
        | .ok none source => Making.nextIdentifier generator.codec { plot with source }
        | .error reason source => .error (.mishap reason) { plot with source }
      else Making.nextIdentifier generator.codec { plot with source } := by
  rw [pickTag, run_bind_of_ok (Making.run_draw_of_ok h)]
  split
  · rw [run_bind_of_ok run_get]
    dsimp only
    cases hchoose : Draw.choose generator.patience plot.pool.order source with
    | error reason final => rw [run_bind_of_error (Making.run_draw_of_error hchoose)]
    | ok choice final =>
      rw [run_bind_of_ok (Making.run_draw_of_ok hchoose)]
      cases choice <;> rfl
  · rfl

/-- The sample asks for a new tag, or there is none in use to choose. -/
def AsksNew (generator : Generator) (plot : Plot σ) (sample : Binary64.Sample) : Prop :=
  generator.settings.tagDensity.exceedsSample sample = false ∨ plot.pool.order = #[]

/-- Then the tag is the next identifier. -/
theorem run_pickTag_of_asksNew {plot : Plot σ} {sample : Binary64.Sample} {source : σ}
    (hunit : Draw.unit plot.source = .ok sample source) (hasked : generator.AsksNew plot sample) :
    generator.pickTag plot = Making.nextIdentifier generator.codec { plot with source } := by
  rw [run_pickTag hunit]
  split
  · rename_i hbelow
    -- there is nothing to choose from
    rcases hasked with habove | hempty
    · exact absurd (habove.symm.trans hbelow) Bool.false_ne_true
    · rw [hempty]
      rfl
  · rfl

omit [WordSource σ] in
/-- An identifier is that of the counter, and it is given as long as the counter can go up. -/
theorem nextIdentifier_eq_ok {codec : Codec} {plot after : Plot σ} {identifier : String}
    (h : Making.nextIdentifier codec plot = .ok identifier after) :
    plot.counter + 1 ≠ 0 ∧ identifier = codec.encode plot.counter ∧
      after = { plot with counter := plot.counter + 1 } := by
  rw [Making.nextIdentifier] at h
  split at h
  · cases h
  · rename_i hleft
    cases h
    exact ⟨hleft, rfl, rfl⟩

/-- What a pick comes to: a tag in use, and the counter stays, or the identifier of the counter, and
    the counter goes up by one. -/
inductive Outcome (generator : Generator) (plot : Plot σ) (sample : Binary64.Sample) (tag : String)
    (after : Plot σ) : Prop where
  | reused (hbelow : generator.settings.tagDensity.exceedsSample sample = true)
      (hused : tag ∈ plot.pool.order) (hcounter : after.counter = plot.counter)
  | minted (hasked : generator.AsksNew plot sample) (hleft : plot.counter + 1 ≠ 0)
      (htag : tag = generator.codec.encode plot.counter)
      (hcounter : after.counter = plot.counter + 1)

/-- One pick: the sample it takes, the tag it gives and the state it leaves. -/
def Attempt (generator : Generator) (plot : Plot σ) (sample : Binary64.Sample) (tag : String)
    (after : Plot σ) : Prop :=
  (∃ source, Draw.unit plot.source = .ok sample source) ∧
    ∃ patience, (generator.withPatience patience).pickTag plot = .ok tag after

/-- A pick that gives a tag puts it to no use yet, leads the source on, and comes to one of the two
    outcomes. -/
theorem pickTag_cases {plot after : Plot σ} {tag : String}
    (h : generator.pickTag plot = .ok tag after) :
    ∃ sample source, Draw.unit plot.source = .ok sample source ∧ after.pool = plot.pool ∧
      WordSource.Reaches plot.source after.source ∧ generator.Outcome plot sample tag after := by
  cases hunit : Draw.unit plot.source with
  | error reason source =>
    rw [pickTag, run_bind_of_error (Making.run_draw_of_error hunit)] at h
    cases h
  | ok sample source =>
    have hreaches := Draw.onward_unit.reaches hunit
    rw [run_pickTag hunit] at h
    refine ⟨sample, source, rfl, ?_⟩
    split at h
    · rename_i hbelow
      cases hchoose : Draw.choose generator.patience plot.pool.order source with
      | error reason final =>
        rw [hchoose] at h
        cases h
      | ok choice final =>
        rw [hchoose] at h
        have hfinal := (Draw.onward_choose generator.patience plot.pool.order).reaches hchoose
        have hgives := Draw.gives_choose (σ := σ) generator.patience plot.pool.order source
        rw [hchoose] at hgives
        cases choice with
        -- a tag was in the pool, and it is reused
        | some used =>
          cases h
          exact ⟨rfl, hreaches.trans hfinal, .reused hbelow hgives rfl⟩
        | none =>
          obtain ⟨hleft, rfl, rfl⟩ := nextIdentifier_eq_ok h
          exact ⟨rfl, hreaches.trans hfinal, .minted (Or.inr hgives) hleft rfl rfl⟩
    · rename_i hbelow
      obtain ⟨hleft, rfl, rfl⟩ := nextIdentifier_eq_ok h
      exact ⟨rfl, hreaches, .minted (Or.inl (Bool.eq_false_iff.2 hbelow)) hleft rfl rfl⟩

namespace Attempt

variable {plot after : Plot σ} {sample : Binary64.Sample} {tag : String}

/-- What an attempt comes to, whatever patience it was made with. -/
theorem outcome (h : generator.Attempt plot sample tag after) :
    after.pool = plot.pool ∧ WordSource.Reaches plot.source after.source ∧
      generator.Outcome plot sample tag after := by
  obtain ⟨⟨source, hunit⟩, patience, hpick⟩ := h
  obtain ⟨sample', source', hunit', hpool, hreaches, houtcome⟩ := pickTag_cases hpick
  cases hunit.symm.trans hunit'
  refine ⟨hpool, hreaches, ?_⟩
  cases houtcome with
  | reused hbelow hused hcounter => exact .reused hbelow hused hcounter
  | minted hasked hleft htag hcounter => exact .minted hasked hleft htag hcounter

/-- An attempt is the same under all patience that is enough. -/
theorem settles (h : generator.Attempt plot sample tag after) :
    Settles (fun patience => (generator.withPatience patience).pickTag) plot (.ok tag after) := by
  obtain ⟨-, patience, hpick⟩ := h
  exact (lasting_pickTag generator).settles_of_ok hpick

/-- One of the tags in use is chosen. -/
theorem of_choice {patience : Nat} {source final : σ}
    (hunit : Draw.unit plot.source = .ok sample source)
    (hbelow : generator.settings.tagDensity.exceedsSample sample = true)
    (hchoose : Draw.choose patience plot.pool.order source = .ok (some tag) final) :
    generator.Attempt plot sample tag { plot with source := final } := by
  refine ⟨⟨source, hunit⟩, patience, ?_⟩
  rw [run_pickTag hunit]
  refine (if_pos hbelow).trans ?_
  rw [show (generator.withPatience patience).patience = patience from rfl, hchoose]

/-- A new identifier is given. -/
theorem of_asksNew {source : σ} (hunit : Draw.unit plot.source = .ok sample source)
    (hasked : generator.AsksNew plot sample) (hleft : plot.counter + 1 ≠ 0) :
    generator.Attempt plot sample (generator.codec.encode plot.counter)
      { plot with source, counter := plot.counter + 1 } := by
  have hpick : (generator.withPatience 0).pickTag plot =
      Making.nextIdentifier generator.codec { plot with source } :=
    run_pickTag_of_asksNew hunit hasked
  exact ⟨⟨source, hunit⟩, 0, hpick.trans (if_neg hleft)⟩

end Attempt

/-- A new tag is asked for and no identifier is left; the source has given its last sample. -/
def Exhausted (generator : Generator) (plot : Plot σ) (source : σ) : Prop :=
  ∃ sample, Draw.unit plot.source = .ok sample source ∧ generator.AsksNew plot sample ∧
    plot.counter + 1 = 0

/-- Without identifiers a pick that asks for a new tag ends under all patience in the same way. -/
theorem Exhausted.run {plot : Plot σ} {source : σ} (h : generator.Exhausted plot source)
    (patience : Nat) : (generator.withPatience patience).pickTag plot =
      .error (.mishap .stalled) { plot with source } := by
  obtain ⟨sample, hunit, hasked, hlast⟩ := h
  have hpick : (generator.withPatience patience).pickTag plot =
      Making.nextIdentifier generator.codec { plot with source } :=
    run_pickTag_of_asksNew hunit hasked
  exact hpick.trans (if_pos hlast)

/-! ## Rounds of the redrawing

  Rounds are told by their samples; each was taken in the state that the round before had left. -/

/-- Attempts, one after the other, that gave tags for which another attempt was made; and their
    samples. -/
inductive Rounds (generator : Generator) (again : String → Prop) :
    Plot σ → List Binary64.Sample → Plot σ → Prop where
  | none (plot : Plot σ) : Rounds generator again plot [] plot
  | more {plot next last : Plot σ} {sample : Binary64.Sample} {tag : String}
      {samples : List Binary64.Sample} (attempt : generator.Attempt plot sample tag next)
      (hagain : again tag) (rest : Rounds generator again next samples last) :
      Rounds generator again plot (sample :: samples) last

/-- So many rounds of `pickOtherTag`, each of them with the given patience. -/
def tries (generator : Generator) (patience : Nat) (taken : List String) (count : Nat) :
    Making σ String :=
  Draw.retry (.mishap .stalled) (do
    let tag ← (generator.withPatience patience).pickTag
    pure (if taken.contains tag then none else some tag)) count

section tries

variable {patience : Nat} {taken : List String} {plot after : Plot σ} {tag : String}

/-- An attempt that gives one of the file's tags is followed by another one. -/
theorem tries_of_mem (h : (generator.withPatience patience).pickTag plot = .ok tag after)
    (htag : tag ∈ taken) (count : Nat) :
    generator.tries patience taken (count + 1) plot =
      generator.tries patience taken count after := by
  refine run_retry_of_none ?_ count
  rw [run_bind_of_ok h, if_pos (List.contains_iff_mem.2 htag)]
  rfl

theorem tries_of_not_mem (h : (generator.withPatience patience).pickTag plot = .ok tag after)
    (htag : tag ∉ taken) (count : Nat) :
    generator.tries patience taken (count + 1) plot = .ok tag after := by
  refine run_retry_of_some ?_ count
  rw [run_bind_of_ok h, if_neg (mt List.contains_iff_mem.1 htag)]
  rfl

theorem tries_of_error {reason : Stop}
    (h : (generator.withPatience patience).pickTag plot = .error reason after) (count : Nat) :
    generator.tries patience taken (count + 1) plot = .error reason after :=
  run_retry_of_error (run_bind_of_error h) count

end tries

section Rounds

variable {taken : List String} {plot mid after : Plot σ} {samples : List Binary64.Sample}
  {tag : String}

/-- Under all patience that is enough, the rounds use up as many attempts as there are samples. -/
theorem Rounds.tries_eq (h : generator.Rounds (· ∈ taken) plot samples mid) :
    ∃ enough, ∀ patience, enough ≤ patience → ∀ count,
      generator.tries patience taken (count + samples.length) plot =
        generator.tries patience taken count mid := by
  induction h with
  | none plot => exact ⟨0, fun _ _ _ => rfl⟩
  | more attempt hagain _ ih =>
    obtain ⟨enough, hpick⟩ := attempt.settles
    obtain ⟨enough', hrest⟩ := ih
    refine ⟨max enough enough', fun patience hpatience count => ?_⟩
    rw [List.length_cons, ← Nat.add_assoc, tries_of_mem (hpick patience (by omega)) hagain]
    exact hrest patience (by omega) count

/-- So what ends the attempt after the rounds ends the redrawing. -/
theorem Rounds.settles {result : EStateM.Result Stop (Plot σ) String}
    (h : generator.Rounds (· ∈ taken) plot samples mid)
    (hlast : ∃ enough, ∀ patience, enough ≤ patience → ∀ count,
      generator.tries patience taken (count + 1) mid = result) :
    Settles (fun patience => (generator.withPatience patience).pickOtherTag taken) plot result := by
  obtain ⟨enough, hrounds⟩ := h.tries_eq
  obtain ⟨enough', hends⟩ := hlast
  refine ⟨max (max enough enough') (samples.length + 1), fun patience hpatience => ?_⟩
  obtain ⟨count, hcount⟩ : ∃ count, patience = count + 1 + samples.length :=
    ⟨patience - samples.length - 1, by omega⟩
  calc (generator.withPatience patience).pickOtherTag taken plot
      = generator.tries patience taken (count + 1 + samples.length) plot :=
        congrArg (fun count => generator.tries patience taken count plot) hcount
    _ = generator.tries patience taken (count + 1) mid := hrounds patience (by omega) (count + 1)
    _ = result := hends patience (by omega) count

/-- Rounds and an attempt that gives another tag: the redrawing gives it. -/
theorem Rounds.settles_of_not_mem {sample : Binary64.Sample}
    (h : generator.Rounds (· ∈ taken) plot samples mid)
    (attempt : generator.Attempt mid sample tag after) (htag : tag ∉ taken) :
    Settles (fun patience => (generator.withPatience patience).pickOtherTag taken) plot
      (.ok tag after) := by
  obtain ⟨enough, hpick⟩ := attempt.settles
  refine h.settles ⟨enough, fun patience hpatience count => ?_⟩
  exact tries_of_not_mem (hpick patience hpatience) htag count

/-- Rounds, and then no identifier is left: the redrawing ends without a tag. -/
theorem Rounds.settles_of_exhausted {source : σ}
    (h : generator.Rounds (· ∈ taken) plot samples mid)
    (hexhausted : generator.Exhausted mid source) :
    Settles (fun patience => (generator.withPatience patience).pickOtherTag taken) plot
      (.error (.mishap .stalled) { mid with source }) := by
  refine h.settles ⟨0, fun patience _ count => ?_⟩
  exact tries_of_error (hexhausted.run patience) count

/-- A tag that the redrawing gives comes from the attempt after some rounds. -/
theorem exists_rounds_of_tries {patience count : Nat}
    (h : generator.tries patience taken count plot = .ok tag after) :
    ∃ samples mid sample, generator.Rounds (· ∈ taken) plot samples mid ∧
      generator.Attempt mid sample tag after ∧ tag ∉ taken := by
  induction count generalizing plot with
  | zero => cases h
  | succ count ih =>
    cases hpick : (generator.withPatience patience).pickTag plot with
    | error reason last =>
      rw [tries_of_error hpick] at h
      cases h
    | ok picked next =>
      obtain ⟨sample, source, hunit, -⟩ := pickTag_cases hpick
      have attempt : generator.Attempt plot sample picked next :=
        ⟨⟨source, hunit⟩, patience, hpick⟩
      by_cases htag : picked ∈ taken
      · rw [tries_of_mem hpick htag] at h
        obtain ⟨samples, mid, last, hrounds, hrest⟩ := ih h
        exact ⟨sample :: samples, mid, last, .more attempt htag hrounds, hrest⟩
      · rw [tries_of_not_mem hpick htag] at h
        cases h
        exact ⟨[], plot, sample, .none plot, attempt, htag⟩

end Rounds

/-- Given patience enough, the redrawing gives the tag and leaves the state. -/
def Picks (generator : Generator) (taken : List String) (plot : Plot σ) (tag : String)
    (after : Plot σ) : Prop :=
  ∃ patience, (generator.withPatience patience).pickOtherTag taken plot = .ok tag after

/-- **The redrawing is repeated attempts:** as long as they give tags that the file has, and no
    longer. -/
theorem picks_iff {taken : List String} {plot after : Plot σ} {tag : String} :
    generator.Picks taken plot tag after ↔
      ∃ samples mid sample, generator.Rounds (· ∈ taken) plot samples mid ∧
        generator.Attempt mid sample tag after ∧ tag ∉ taken := by
  constructor
  · rintro ⟨patience, hpick⟩
    exact exists_rounds_of_tries hpick
  · rintro ⟨samples, mid, sample, hrounds, hattempt, htag⟩
    obtain ⟨enough, hsettles⟩ := hrounds.settles_of_not_mem hattempt htag
    exact ⟨enough, hsettles enough (Nat.le_refl enough)⟩

end Generator

end Thicket
