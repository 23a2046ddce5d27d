/-
  When a generator is made.

  The settings alone decide.  If they have a fault, nothing is drawn and nothing is reported
  (`create_of_fault`).  If they have none, the seed is reported, and what is drawn then is an
  order of the letters and digits, none of which is refused as an alphabet
  (`Codec.ofSymbols?_of_perm`).  So no fault of an alphabet ever comes out of a call
  (`create_ends`), and the call ends as soon as the shuffle does: after enough words, unless the
  source dries up (`Codec.shuffled_settles`).

  The minimum length of identifiers is looked at only behind the shuffle.  It decides whether
  there is a codec, and not what is drawn: with any two lengths the source is left in the same
  state (`Codec.stateLeft_shuffled`).

  That a source may dry up cannot be excluded for sources in general.  One whose words are all
  rejected for some range never ends the shuffle, whatever the patience.
-/
import Thicket.Proofs.Codec.Shuffled
import Thicket.Proofs.Random.Patience
import Thicket.Session

namespace Thicket

variable {σ : Type} [WordSource σ]

namespace Codec

/-! ## Drawing an alphabet

  The alphabet has sixty-two symbols, so the shuffle draws positions for from sixty-two down to
  two places. -/

/-- The length decides nothing about what is drawn. -/
theorem stateLeft_shuffled (patience minLength minLength' : Nat) (source : σ) :
    stateLeft (shuffled patience minLength source) =
      stateLeft (shuffled patience minLength' source) := by
  rw [run_shuffled, run_shuffled]
  cases Draw.shuffle patience letters.toList.toArray source <;> rfl

/-- **A codec is drawn after enough words, unless the source dries up.**  Whether it is refused for
    its length is decided when nothing is left to draw. -/
theorem shuffled_settles (source : σ) :
    (∃ after enough, ∀ minLength, ∃ result,
      (if 3 ≤ minLength then ∃ codec, result = .ok codec ∧ codec.Dealt minLength
        else result = .error (.shortIdentifiers minLength)) ∧
      ∀ patience, enough ≤ patience → shuffled patience minLength source = .ok result after) ∨
    Draw.DriesUp 62 source := by
  have hsize : letters.toList.toArray.size = 62 := length_letters
  have hshuffle := Draw.shuffle_settles letters.toList.toArray (by rw [hsize]; decide) source
  rw [hsize] at hshuffle
  refine hshuffle.imp_left ?_
  rintro ⟨symbols, after, -, enough, henough⟩
  dsimp only at henough
  have hperm : symbols.Perm letters.toList.toArray := by
    have hgives := Draw.gives_shuffle enough letters.toList.toArray source
    rw [henough enough (Nat.le_refl enough)] at hgives
    exact hgives
  refine ⟨after, enough, fun minLength => ⟨_, ofSymbols?_of_perm hperm minLength, ?_⟩⟩
  intro patience hpatience
  rw [run_shuffled, henough patience hpatience]

end Codec

namespace Generator

/-! ## Making a generator

  A world is a source, a disk and reports; drawing changes the first and reporting the last. -/

omit [WordSource σ] in
/-- A draw that gives something moves the source of the world on. -/
theorem run_draw_of_ok {α : Type} {draw : Draw σ α} {source after : σ} {disk : Disk}
    {notices : Array Notice} {a : α} (h : draw source = .ok a after) :
    Act.draw draw { source, disk, notices } = .ok a { source := after, disk, notices } := by
  rw [Act.draw, h]

omit [WordSource σ] in
theorem run_draw_of_error {α : Type} {draw : Draw σ α} {source after : σ} {disk : Disk}
    {notices : Array Notice} {reason : Mishap} (h : draw source = .error reason after) :
    Act.draw draw { source, disk, notices } =
      .error (.mishap reason) { source := after, disk, notices } := by
  rw [Act.draw, h]

/-- The world once a seed is reported and words are drawn, which leave the source in this state. -/
def told (world : World σ) (seed : UInt64) (source : σ) : World σ :=
  { world with source, notices := world.notices.push (.seed seed) }

variable {settings : Settings} {seed : UInt64} {patience : Nat} {world : World σ}

/-- Settings with a fault are refused, and the world is left as it is. -/
theorem create_of_fault {fault : Fault} (h : settings.fault? = some fault) :
    create settings seed patience world = .error (.failed (.invalid fault)) world := by
  rw [create, h]
  rfl

/-- Without a fault in the settings a call ends as the shuffle does. -/
theorem create_of_valid (h : settings.fault? = none) :
    create settings seed patience world =
      match Codec.shuffled patience Codec.fixtureLength world.source with
      | .ok (.ok codec) source => .ok { settings, seed, codec, patience } (told world seed source)
      | .ok (.error fault) source => .error (.failed (.invalid fault)) (told world seed source)
      | .error reason source => .error (.mishap reason) (told world seed source) := by
  rw [create, h]
  dsimp only
  rw [Act.report, run_bind_of_ok (run_modify _)]
  cases hresult : Codec.shuffled patience Codec.fixtureLength world.source with
  | error reason source => rw [run_bind_of_error (run_draw_of_error hresult)]; rfl
  | ok dealt source =>
    rw [run_bind_of_ok (run_draw_of_ok hresult)]
    cases dealt <;> rfl

/-- Without a fault the seed is reported, and then there is a generator or the shuffle has given
    up. -/
theorem create_ends (h : settings.fault? = none) (patience : Nat) (world : World σ) :
    ∃ source, (∃ codec, codec.Dealt Codec.fixtureLength ∧
        create settings seed patience world =
          .ok { settings, seed, codec, patience } (told world seed source)) ∨
      create settings seed patience world = .error (.mishap .stalled) (told world seed source) := by
  have hgives : Draw.Gives (σ := σ) _ _ := Codec.gives_dealt patience Codec.fixtureLength
  have hdealt := hgives world.source
  rw [create_of_valid h]
  cases hresult : Codec.shuffled patience Codec.fixtureLength world.source with
  | error reason source =>
    rw [hresult] at hdealt
    obtain rfl : reason = .stalled := hdealt
    exact ⟨source, Or.inr rfl⟩
  | ok dealt source =>
    rw [hresult] at hdealt
    obtain ⟨codec, rfl, hcodec⟩ := (if_pos (show 3 ≤ Codec.fixtureLength by decide)).mp hdealt
    exact ⟨source, Or.inl ⟨codec, hcodec, rfl⟩⟩

/-- Without a fault there is a generator after enough words, unless the source dries up. -/
theorem create_settles (h : settings.fault? = none) :
    (∃ codec source enough, codec.Dealt Codec.fixtureLength ∧
        ∀ patience, enough ≤ patience → create settings seed patience world =
          .ok { settings, seed, codec, patience } (told world seed source)) ∨
      Draw.DriesUp 62 world.source := by
  refine (Codec.shuffled_settles world.source).imp_left ?_
  rintro ⟨source, enough, hsettles⟩
  obtain ⟨result, hresult, henough⟩ := hsettles Codec.fixtureLength
  obtain ⟨codec, rfl, hcodec⟩ := (if_pos (show 3 ≤ Codec.fixtureLength by decide)).mp hresult
  refine ⟨codec, source, enough, hcodec, ?_⟩
  intro patience hpatience
  rw [create_of_valid h, henough patience hpatience]

/-- A workshop reports the seed that the settings have, if they have no other fault. -/
theorem workshop_create (hseed : settings.seed = some seed) (shop : Workshop) (entropy : UInt32) :
    match settings.validate with
    | .error failure => shop.create settings entropy = (#[], .error (.failed failure), shop)
    | .ok () => (shop.create settings entropy).1 = #[.seed seed] ∧
        ((shop.create settings entropy).2.1 = .ok seed ∨
          (shop.create settings entropy).2.1 = .error (.mishap .stalled)) := by
  rw [Settings.validate, Workshop.create, hseed, Option.getD_some]
  cases hfault : settings.fault? with
  | some fault => rw [create_of_fault hfault]
  | none =>
    rcases create_ends hfault defaultPatience ⟨KeyStream.ofSeed seed, shop.disk, #[]⟩ with
      ⟨source, ⟨codec, -, hcreate⟩ | hcreate⟩
    · rw [hcreate]
      exact ⟨rfl, Or.inl rfl⟩
    · rw [hcreate]
      exact ⟨rfl, Or.inr rfl⟩

/-- **A generator is made exactly if its settings have no fault.**  Settings with a fault are
    refused under all patience, and nothing is drawn or reported.  Otherwise the seed is reported,
    and only the seed, and no call fails; after enough words there is a generator as asked for,
    whose alphabet consists of all letters and digits, unless the source dries up.  A shuffled
    codec is refused only for its length, and the words that are drawn do not depend on that. -/
theorem create_iff_valid (settings : Settings) (seed : UInt64) (world : World σ) :
    (match settings.validate with
      | .error failure =>
        ∀ patience, create settings seed patience world = .error (.failed failure) world
      | .ok () =>
        (∀ patience, ∃ source, (∃ codec, codec.Dealt Codec.fixtureLength ∧
            create settings seed patience world =
              .ok { settings, seed, codec, patience } (told world seed source)) ∨
          create settings seed patience world =
            .error (.mishap .stalled) (told world seed source)) ∧
        ((∃ codec source enough, codec.Dealt Codec.fixtureLength ∧
            ∀ patience, enough ≤ patience → create settings seed patience world =
              .ok { settings, seed, codec, patience } (told world seed source)) ∨
          Draw.DriesUp 62 world.source)) ∧
    (∀ (shop : Workshop) (entropy : UInt32), settings.seed = some seed →
      match settings.validate with
      | .error failure => shop.create settings entropy = (#[], .error (.failed failure), shop)
      | .ok () => (shop.create settings entropy).1 = #[.seed seed] ∧
          ((shop.create settings entropy).2.1 = .ok seed ∨
            (shop.create settings entropy).2.1 = .error (.mishap .stalled))) ∧
    (∀ patience minLength, Draw.Gives (σ := σ) (Codec.shuffled patience minLength) fun result =>
      if 3 ≤ minLength then ∃ codec, result = .ok codec ∧ codec.Dealt minLength
      else result = .error (.shortIdentifiers minLength)) ∧
    (∀ patience minLength minLength' (source : σ),
      stateLeft (Codec.shuffled patience minLength source) =
        stateLeft (Codec.shuffled patience minLength' source)) ∧
    ∀ source : σ,
      (∃ after enough, ∀ minLength, ∃ result,
        (if 3 ≤ minLength then ∃ codec, result = .ok codec ∧ codec.Dealt minLength
          else result = .error (.shortIdentifiers minLength)) ∧
        ∀ patience, enough ≤ patience →
          Codec.shuffled patience minLength source = .ok result after) ∨
      Draw.DriesUp 62 source := by
  refine ⟨?_, fun shop entropy hseed => workshop_create hseed shop entropy, Codec.gives_dealt,
    Codec.stateLeft_shuffled, Codec.shuffled_settles⟩
  rw [Settings.validate]
  cases hfault : settings.fault? with
  | some fault => exact fun patience => create_of_fault hfault
  | none => exact ⟨fun patience => create_ends hfault patience world, create_settles hfault⟩

end Generator

end Thicket
