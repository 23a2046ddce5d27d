/-
  What the exit code tells.

  1. **Calls** — a run goes through three of them: the arguments are read, a generator is made
     (`Creates`), and it makes the fixture (`Generates`).  Each can be the last one (`run_cases`),
     and for each it is known what the run comes to (`run_of_refused`, `run_of_creates`,
     `run_of_generates`, `run_of_generates_ok`).
  2. **Endings** — what a last call can give is one of four things (`Ending`), each with its exit
     code.  A run comes to exactly one of them or repeats a draw for ever (`run_ends`); nothing else
     can happen, because only a refused parameter ends the making of a generator and no made
     generator asks for a number from an empty range.  So a code is shown by exactly those runs
     whose ending has it (`exits_iff`), and which endings have a code is a matter of two short
     tables, that of the refusals and that of the failures.
  3. **The log** — log filter and quiet flag come in behind all that, where the log is filtered; so
     they change the log and nothing else (`Alike`).

  `exit_code_tells` says both for all arguments, disks, log filters and words of entropy.
-/
import Thicket.Command.Program
import Thicket.Proofs.Command.Quiet
import Thicket.Proofs.Fixture.Failures
import Thicket.Proofs.Fixture.Refusal

namespace Thicket.Command

/-! ## The calls of a run

  The seed is that of the arguments or is made of the entropy that the run was given; from then
  on the run depends on nothing else but the disk. -/

/-- The seed of an invocation: its own, or the entropy. -/
def Invocation.seed (invocation : Invocation) (entropy : UInt32) : UInt64 :=
  invocation.settings.seed.getD entropy.toUInt64

/-- The arguments ask for a generator, and making it comes to this. -/
def Creates (disk : Disk) (arguments : List String) (entropy : UInt32)
    (result : EStateM.Result Stop (World KeyStream) Generator) : Prop :=
  ∃ invocation, Invocation.ofArguments arguments = .ok invocation ∧
    Generator.create invocation.settings (invocation.seed entropy) Generator.defaultPatience
      ⟨KeyStream.ofSeed (invocation.seed entropy), disk, #[]⟩ = result

/-- The arguments ask for a generator, it is made, and making the fixture comes to this. -/
def Generates (disk : Disk) (arguments : List String) (entropy : UInt32)
    (result : EStateM.Result Stop (World KeyStream) Summary) : Prop :=
  ∃ invocation generator world, Invocation.ofArguments arguments = .ok invocation ∧
    Generator.create invocation.settings (invocation.seed entropy) Generator.defaultPatience
      ⟨KeyStream.ofSeed (invocation.seed entropy), disk, #[]⟩ = .ok generator world ∧
    generator.generate invocation.name world = result

/-- The run ends, and with this exit code. -/
def Outcome.Exits (outcome : Outcome) (code : Nat) : Prop :=
  (∀ mishap, outcome ≠ .givenUp mishap) ∧ outcome.exitCode = code

/-- The exit code tells what a run came to. -/
structure ExitCodeTells (disk : Disk) (arguments : List String) (entropy : UInt32)
    (ended : Outcome × Disk) : Prop where
  /-- Zero: a text was asked for, or the fixture is complete. -/
  zero : ended.1.Exits 0 ↔
    Invocation.ofArguments arguments = .error .displayHelp ∨
    Invocation.ofArguments arguments = .error .displayVersion ∨
    ∃ summary world, Generates disk arguments entropy (.ok summary world)
  /-- One: the disk refused an operation. -/
  one : ended.1.Exits 1 ↔ ∃ task path cause world,
    Generates disk arguments entropy (.error (.failed (.storage task path cause)) world)
  /-- Two: the arguments are misused, or a parameter or the name is refused. -/
  two : ended.1.Exits 2 ↔
    (∃ refusal, Invocation.ofArguments arguments = .error refusal ∧ refusal ≠ .displayHelp ∧
      refusal ≠ .displayVersion) ∨
    (∃ fault world, Creates disk arguments entropy (.error (.failed (.invalid fault)) world)) ∨
    ∃ fault world, Generates disk arguments entropy (.error (.failed (.invalid fault)) world)
  /-- And then nothing was done. -/
  two_untouched : ended.1.Exits 2 → ended.2 = disk
  /-- Three: the fixture is there already. -/
  three : ended.1.Exits 3 ↔ ∃ path world,
    Generates disk arguments entropy (.error (.failed (.alreadyExists path)) world)
  /-- There is no other code. -/
  no_other : ∀ code, ended.1.Exits code → code ≤ 3
  /-- A run that does not end repeats a draw for ever. -/
  stalls : ∀ mishap, ended.1 = .givenUp mishap → mishap = .stalled

/-- Runs that come to the same, whatever is in their logs. -/
structure Alike (first second : Outcome × Disk) : Prop where
  exits : ∀ code, first.1.Exits code ↔ second.1.Exits code
  /-- The same refusal, and so the same text with it: the help text is written for one of them. -/
  refusal : ∀ refusal, first.1 = .refused refusal ↔ second.1 = .refused refusal
  output : first.1.output = second.1.output
  disk : first.2 = second.2

/-! ## What a run comes to

  One lemma for each call that can be the last.  A run that was made and then stopped has
  written its log; what is in the log is left open, for the filter decides it. -/

variable {disk : Disk} {arguments : List String} {logFilter : Option String} {entropy : UInt32}

/-- What becomes of a run that is stopped, with some log. -/
def stoppedWith (stop : Stop) (log : List LogLine) : Outcome :=
  match stop with
  | .mishap mishap => .givenUp mishap
  | .failed failure => .ended failure.exitCode log

/-- A run that stopped is the same under every filter but for its log. -/
theorem exists_filtered_stopped (filter : LogFilter) (context : String) (stop : Stop)
    (notices : Array Notice) :
    ∃ log, (stopped context stop notices).filtered filter = stoppedWith stop log := by
  cases stop with
  | mishap mishap => exact ⟨[], rfl⟩
  | failed failure => exact ⟨_, rfl⟩

/-- Refused arguments end the run before anything is looked at. -/
theorem run_of_refused {refusal : Refusal}
    (h : Invocation.ofArguments arguments = .error refusal) :
    run disk arguments logFilter entropy = (.refused refusal, disk) := by
  rw [run, h]

/-- Accepted arguments are carried out, and the log is filtered at the end. -/
theorem run_of_accepted {invocation : Invocation}
    (h : Invocation.ofArguments arguments = .ok invocation) :
    run disk arguments logFilter entropy =
      let ended := carryOut invocation (invocation.seed entropy)
        ⟨KeyStream.ofSeed (invocation.seed entropy), disk, #[]⟩
      (ended.1.filtered (LogFilter.inForce logFilter invocation.quiet), ended.2) := by
  rw [run, h]
  rfl

/-- A run whose generator could not be made stops there. -/
theorem run_of_creates {stop : Stop} {world : World KeyStream}
    (h : Creates disk arguments entropy (.error stop world)) (logFilter : Option String) :
    ∃ log, run disk arguments logFilter entropy = (stoppedWith stop log, world.disk) := by
  obtain ⟨invocation, hargs, hcreate⟩ := h
  rw [run_of_accepted hargs, carryOut, hcreate]
  obtain ⟨log, hlog⟩ := exists_filtered_stopped
    (LogFilter.inForce logFilter invocation.quiet) "" stop world.notices
  exact ⟨log, Prod.ext hlog rfl⟩

/-- A run whose fixture could not be made stops there, with the disk as it was left. -/
theorem run_of_generates {stop : Stop} {world : World KeyStream}
    (h : Generates disk arguments entropy (.error stop world)) (logFilter : Option String) :
    ∃ log, run disk arguments logFilter entropy = (stoppedWith stop log, world.disk) := by
  obtain ⟨invocation, generator, made, hargs, hcreate, hgenerate⟩ := h
  rw [run_of_accepted hargs, carryOut, hcreate]
  simp only [hgenerate]
  obtain ⟨log, hlog⟩ := exists_filtered_stopped
    (LogFilter.inForce logFilter invocation.quiet) (makingContext invocation.name) stop
    world.notices
  exact ⟨log, Prod.ext hlog rfl⟩

/-- A run whose fixture is complete ends with zero. -/
theorem run_of_generates_ok {summary : Summary} {world : World KeyStream}
    (h : Generates disk arguments entropy (.ok summary world)) (logFilter : Option String) :
    ∃ log, run disk arguments logFilter entropy = (.ended 0 log, world.disk) := by
  obtain ⟨invocation, generator, made, hargs, hcreate, hgenerate⟩ := h
  rw [run_of_accepted hargs, carryOut, hcreate]
  simp only [hgenerate]
  exact ⟨_, rfl⟩

/-- **A run ends at one of its calls.** -/
theorem run_cases (disk : Disk) (arguments : List String) (entropy : UInt32) :
    (∃ refusal, Invocation.ofArguments arguments = .error refusal) ∨
      (∃ stop world, Creates disk arguments entropy (.error stop world)) ∨
      (∃ stop world, Generates disk arguments entropy (.error stop world)) ∨
      ∃ summary world, Generates disk arguments entropy (.ok summary world) := by
  cases hargs : Invocation.ofArguments arguments with
  | error refusal => exact .inl ⟨refusal, rfl⟩
  | ok invocation =>
    refine .inr ?_
    cases hcreate : Generator.create invocation.settings (invocation.seed entropy)
        Generator.defaultPatience ⟨KeyStream.ofSeed (invocation.seed entropy), disk, #[]⟩ with
    | error stop world => exact .inl ⟨stop, world, invocation, hargs, hcreate⟩
    | ok generator made =>
      refine .inr ?_
      cases hgenerate : generator.generate invocation.name made with
      | error stop world =>
        exact .inl ⟨stop, world, invocation, generator, made, hargs, hcreate, hgenerate⟩
      | ok summary world =>
        exact .inr ⟨summary, world, invocation, generator, made, hargs, hcreate, hgenerate⟩

/-! ## Kinds of stops

  Either call can stop for a mishap of the draws or for a failure, but not for each of them. -/

/-- The making of a generator ends with a refused parameter or stalls. -/
theorem Creates.stop_eq {stop : Stop} {world : World KeyStream}
    (h : Creates disk arguments entropy (.error stop world)) :
    (∃ fault, stop = .failed (.invalid fault)) ∨ stop = .mishap .stalled := by
  obtain ⟨invocation, -, hcreate⟩ := h
  exact Generator.create_eq_error hcreate

/-- It does not touch the disk. -/
theorem Creates.disk_eq {result : EStateM.Result Stop (World KeyStream) Generator}
    (h : Creates disk arguments entropy result) : (stateLeft result).disk = disk := by
  obtain ⟨invocation, -, rfl⟩ := h
  exact Generator.disk_of_create _ _ _ _

/-- A generator that was made asks for no number from an empty range. -/
theorem Generates.ne_emptyRange {stop : Stop} {world : World KeyStream}
    (h : Generates disk arguments entropy (.error stop world)) : stop ≠ .mishap .emptyRange := by
  obtain ⟨invocation, generator, made, -, hcreate, hgenerate⟩ := h
  rintro rfl
  exact Generator.generate_ne_emptyRange (Generator.made_of_create hcreate).valid hgenerate

/-- A refused name leaves the disk as it was. -/
theorem Generates.disk_eq {fault : Fault} {world : World KeyStream}
    (h : Generates disk arguments entropy (.error (.failed (.invalid fault)) world)) :
    world.disk = disk := by
  obtain ⟨invocation, generator, made, hargs, hcreate, hgenerate⟩ := h
  obtain ⟨-, -, rfl⟩ := Generator.generate_eq_invalid hgenerate
  exact Creates.disk_eq ⟨invocation, hargs, hcreate⟩

/-! ## Endings

  An ending is what the last call has given, without the state it has given it in. -/

/-- What a run ends with, unless it repeats a draw for ever: the arguments are refused, a
    parameter is refused, the making of the fixture fails, or the fixture is complete. -/
inductive Ending where
  | refused (refusal : Refusal)
  | unmade (fault : Fault)
  | failed (failure : Failure)
  | complete

namespace Ending

/-- The call that gives this ending has given it. -/
def Reached (disk : Disk) (arguments : List String) (entropy : UInt32) : Ending → Prop
  | refused refusal => Invocation.ofArguments arguments = .error refusal
  | unmade fault =>
    ∃ world, Creates disk arguments entropy (.error (.failed (.invalid fault)) world)
  | failed failure => ∃ world, Generates disk arguments entropy (.error (.failed failure) world)
  | complete => ∃ summary world, Generates disk arguments entropy (.ok summary world)

/-- The exit code that goes with an ending. -/
def exitCode : Ending → Nat
  | refused refusal => refusal.exitCode
  | unmade _ => 2
  | failed failure => failure.exitCode
  | complete => 0

/-- What becomes of a run with this ending and some log. -/
def outcome (log : List LogLine) : Ending → Outcome
  | refused refusal => .refused refusal
  | unmade _ => .ended 2 log
  | failed failure => .ended failure.exitCode log
  | complete => .ended 0 log

/-- Every ending ends the run, with its own code. -/
theorem exits_outcome_iff {ending : Ending} {log : List LogLine} {code : Nat} :
    (ending.outcome log).Exits code ↔ ending.exitCode = code := by
  constructor
  · rintro ⟨-, rfl⟩
    cases ending <;> rfl
  · rintro rfl
    cases ending <;> exact ⟨nofun, rfl⟩

/-- Zero is for texts that were asked for and for complete fixtures: every failure has another code,
    and so has every other refusal. -/
theorem exitCode_eq_zero_iff {ending : Ending} :
    ending.exitCode = 0 ↔
      ending = refused .displayHelp ∨ ending = refused .displayVersion ∨ ending = complete := by
  cases ending with
  | refused refusal => cases refusal <;> simp [exitCode, Refusal.exitCode]
  | failed failure => cases failure <;> simp [exitCode, Failure.exitCode]
  | _ => simp [exitCode]

/-- One is for what the disk refused. -/
theorem exitCode_eq_one_iff {ending : Ending} :
    ending.exitCode = 1 ↔ ∃ task path cause, ending = failed (.storage task path cause) := by
  cases ending with
  | refused refusal => cases refusal <;> simp [exitCode, Refusal.exitCode]
  | failed failure => cases failure <;> simp [exitCode, Failure.exitCode]
  | _ => simp [exitCode]

/-- Two is for everything that the user has asked for wrongly: arguments, parameters, the name. -/
theorem exitCode_eq_two_iff {ending : Ending} :
    ending.exitCode = 2 ↔
      (∃ refusal, ending = refused refusal ∧ refusal ≠ .displayHelp ∧
        refusal ≠ .displayVersion) ∨
      (∃ fault, ending = unmade fault) ∨ ∃ fault, ending = failed (.invalid fault) := by
  cases ending with
  | refused refusal => cases refusal <;> simp [exitCode, Refusal.exitCode]
  | failed failure => cases failure <;> simp [exitCode, Failure.exitCode]
  | _ => simp [exitCode]

/-- Three is for a fixture that is there already. -/
theorem exitCode_eq_three_iff {ending : Ending} :
    ending.exitCode = 3 ↔ ∃ path, ending = failed (.alreadyExists path) := by
  cases ending with
  | refused refusal => cases refusal <;> simp [exitCode, Refusal.exitCode]
  | failed failure => cases failure <;> simp [exitCode, Failure.exitCode]
  | _ => simp [exitCode]

theorem exitCode_le (ending : Ending) : ending.exitCode ≤ 3 := by
  cases ending with
  | refused refusal => cases refusal <;> decide
  | unmade fault => exact Nat.le_succ 2
  | failed failure => cases failure <;> simp [exitCode, Failure.exitCode]
  | complete => exact Nat.zero_le 3

/-- **The call that gives an ending makes the outcome of the run.** -/
theorem Reached.run_eq {ending : Ending} (h : ending.Reached disk arguments entropy)
    (logFilter : Option String) :
    ∃ log, (run disk arguments logFilter entropy).1 = ending.outcome log := by
  cases ending with
  | refused refusal => exact ⟨[], by rw [run_of_refused h]; rfl⟩
  | unmade fault =>
    obtain ⟨world, hcall⟩ := h
    obtain ⟨log, hrun⟩ := run_of_creates hcall logFilter
    exact ⟨log, by rw [hrun]; rfl⟩
  | failed failure =>
    obtain ⟨world, hcall⟩ := h
    obtain ⟨log, hrun⟩ := run_of_generates hcall logFilter
    exact ⟨log, by rw [hrun]; rfl⟩
  | complete =>
    obtain ⟨summary, world, hcall⟩ := h
    obtain ⟨log, hrun⟩ := run_of_generates_ok hcall logFilter
    exact ⟨log, by rw [hrun]; rfl⟩

end Ending

/-- **A run comes to one of its endings, or it repeats a draw for ever.** -/
theorem run_ends (disk : Disk) (arguments : List String) (logFilter : Option String)
    (entropy : UInt32) :
    (∃ ending : Ending, ending.Reached disk arguments entropy) ∨
      (run disk arguments logFilter entropy).1 = .givenUp .stalled := by
  rcases run_cases disk arguments entropy with ⟨refusal, hcall⟩ | ⟨stop, world, hcall⟩ |
    ⟨stop, world, hcall⟩ | ⟨summary, world, hcall⟩
  · exact Or.inl ⟨.refused refusal, hcall⟩
  · rcases hcall.stop_eq with ⟨fault, rfl⟩ | rfl
    · exact Or.inl ⟨.unmade fault, world, hcall⟩
    · obtain ⟨log, hrun⟩ := run_of_creates hcall logFilter
      exact Or.inr (by rw [hrun]; rfl)
  · cases stop with
    | failed failure => exact Or.inl ⟨.failed failure, world, hcall⟩
    | mishap mishap =>
      -- a made generator never asks for a number from an empty range
      cases mishap with
      | emptyRange => exact absurd rfl hcall.ne_emptyRange
      | stalled =>
        obtain ⟨log, hrun⟩ := run_of_generates hcall logFilter
        exact Or.inr (by rw [hrun]; rfl)
  · exact Or.inl ⟨.complete, summary, world, hcall⟩

/-! ## The exit code

  Since every run has an ending or stalls, and an ending has one code, the runs with a code are
  those whose ending has it. -/

/-- **A run has the exit code of its ending.** -/
theorem exits_iff {code : Nat} :
    (run disk arguments logFilter entropy).1.Exits code ↔
      ∃ ending : Ending, ending.Reached disk arguments entropy ∧ ending.exitCode = code := by
  constructor
  · intro h
    rcases run_ends disk arguments logFilter entropy with ⟨ending, hreached⟩ | hstalled
    · obtain ⟨log, hrun⟩ := hreached.run_eq logFilter
      rw [hrun, Ending.exits_outcome_iff] at h
      exact ⟨ending, hreached, h⟩
    · exact absurd hstalled (h.1 _)
  · rintro ⟨ending, hreached, hcode⟩
    obtain ⟨log, hrun⟩ := hreached.run_eq logFilter
    rw [hrun, Ending.exits_outcome_iff]
    exact hcode

/-- A usage error, a refused parameter and a refused name leave the disk as it was. -/
theorem disk_of_exits_two (h : (run disk arguments logFilter entropy).1.Exits 2) :
    (run disk arguments logFilter entropy).2 = disk := by
  obtain ⟨ending, hreached, hcode⟩ := exits_iff.1 h
  rcases Ending.exitCode_eq_two_iff.1 hcode with ⟨refusal, rfl, -⟩ | ⟨fault, rfl⟩ | ⟨fault, rfl⟩
  · rw [run_of_refused hreached]
  · obtain ⟨world, hcall⟩ := hreached
    obtain ⟨log, hrun⟩ := run_of_creates hcall logFilter
    rw [hrun]
    exact hcall.disk_eq
  · obtain ⟨world, hcall⟩ := hreached
    obtain ⟨log, hrun⟩ := run_of_generates hcall logFilter
    rw [hrun]
    exact hcall.disk_eq

/-- Only a run that stalls is given up. -/
theorem eq_stalled_of_givenUp {mishap : Mishap}
    (h : (run disk arguments logFilter entropy).1 = .givenUp mishap) : mishap = .stalled := by
  rcases run_ends disk arguments logFilter entropy with ⟨ending, hreached⟩ | hstalled
  · obtain ⟨log, hrun⟩ := hreached.run_eq logFilter
    rw [hrun] at h
    cases ending <;> cases h
  · rw [hstalled] at h
    exact (Outcome.givenUp.inj h).symm

/-- **Every code is read off the endings that have it.** -/
theorem exitCodeTells (disk : Disk) (arguments : List String) (logFilter : Option String)
    (entropy : UInt32) :
    ExitCodeTells disk arguments entropy (run disk arguments logFilter entropy) where
  zero := by
    rw [exits_iff]
    simp only [Ending.exitCode_eq_zero_iff, and_or_left, exists_or, exists_eq_right]
    exact Iff.rfl
  one := by
    rw [exits_iff]
    constructor
    · rintro ⟨ending, hreached, hcode⟩
      obtain ⟨task, path, cause, rfl⟩ := Ending.exitCode_eq_one_iff.1 hcode
      exact ⟨task, path, cause, hreached⟩
    · rintro ⟨task, path, cause, hreached⟩
      exact ⟨.failed (.storage task path cause), hreached, rfl⟩
  two := by
    rw [exits_iff]
    constructor
    · rintro ⟨ending, hreached, hcode⟩
      -- refused arguments, settings with a fault, or a name that is not plain
      rcases Ending.exitCode_eq_two_iff.1 hcode with ⟨refusal, rfl, hother⟩ | ⟨fault, rfl⟩ |
        ⟨fault, rfl⟩
      · exact Or.inl ⟨refusal, hreached, hother⟩
      · exact Or.inr (Or.inl ⟨fault, hreached⟩)
      · exact Or.inr (Or.inr ⟨fault, hreached⟩)
    · rintro (⟨refusal, hreached, hother⟩ | ⟨fault, hreached⟩ | ⟨fault, hreached⟩)
      · have hcode := Ending.exitCode_eq_two_iff.2 (Or.inl ⟨refusal, rfl, hother⟩)
        exact ⟨.refused refusal, hreached, hcode⟩
      · exact ⟨.unmade fault, hreached, rfl⟩
      · exact ⟨.failed _, hreached, rfl⟩
  two_untouched := disk_of_exits_two
  three := by
    rw [exits_iff]
    constructor
    · rintro ⟨ending, hreached, hcode⟩
      obtain ⟨path, rfl⟩ := Ending.exitCode_eq_three_iff.1 hcode
      exact ⟨path, hreached⟩
    · rintro ⟨path, hreached⟩
      exact ⟨.failed (.alreadyExists path), hreached, rfl⟩
  no_other := by
    intro code h
    obtain ⟨ending, -, rfl⟩ := exits_iff.1 h
    exact ending.exitCode_le
  stalls := fun _ => eq_stalled_of_givenUp

/-! ## The log

  The log is filtered when everything else is over, and the quiet flag is handed through to that
  point. -/

/-- A filter takes lines from the log and nothing else. -/
theorem alike_filtered (filter filter' : LogFilter) (outcome : Outcome) (disk : Disk) :
    Alike (outcome.filtered filter, disk) (outcome.filtered filter', disk) := by
  cases outcome with
  | refused refusal => exact ⟨fun _ => Iff.rfl, fun _ => Iff.rfl, rfl, rfl⟩
  | givenUp mishap => exact ⟨fun _ => Iff.rfl, fun _ => Iff.rfl, rfl, rfl⟩
  | ended code log =>
    refine ⟨fun other => ?_, fun refusal => iff_of_false nofun nofun, rfl, rfl⟩
    exact ⟨fun h => ⟨nofun, h.2⟩, fun h => ⟨nofun, h.2⟩⟩

theorem Alike.refl (ended : Outcome × Disk) : Alike ended ended :=
  ⟨fun _ => Iff.rfl, fun _ => Iff.rfl, rfl, rfl⟩

/-- Invocations that differ in the quiet flag only are carried out alike. -/
theorem alike_of_accepted {arguments' : List String} {logFilter' : Option String}
    {invocation : Invocation} {quiet : Bool}
    (h : Invocation.ofArguments arguments = .ok invocation)
    (h' : Invocation.ofArguments arguments' = .ok { invocation with quiet }) :
    Alike (run disk arguments' logFilter' entropy) (run disk arguments logFilter entropy) := by
  rw [run_of_accepted h, run_of_accepted h']
  exact alike_filtered _ _ _ _

/-- With the quiet flag in front of arguments that do not give it. -/
theorem alike_of_quiet {first : String} (hfirst : first = "-q" ∨ first = "--quiet")
    (h : ∀ argument ∈ arguments, ¬ GivesQuiet argument) :
    Alike (run disk (first :: arguments) logFilter entropy)
      (run disk arguments logFilter entropy) := by
  have hquiet := ofArguments_quiet hfirst h
  cases hargs : Invocation.ofArguments arguments with
  | error refusal =>
    rw [hargs] at hquiet
    rw [run_of_refused hargs, run_of_refused hquiet]
    exact Alike.refl _
  | ok invocation =>
    rw [hargs] at hquiet
    exact alike_of_accepted hargs hquiet

/-- With any other filter for the log. -/
theorem alike_of_logFilter (disk : Disk) (arguments : List String)
    (logFilter logFilter' : Option String) (entropy : UInt32) :
    Alike (run disk arguments logFilter' entropy) (run disk arguments logFilter entropy) := by
  cases hargs : Invocation.ofArguments arguments with
  | error refusal =>
    rw [run_of_refused hargs, run_of_refused hargs]
    exact Alike.refl _
  | ok invocation => exact alike_of_accepted hargs hargs

/-- **The exit code tells what a run came to, and nothing of it depends on what is logged.**  Exit
    code, output and disk are the same for all log filters, with the quiet flag in front of
    arguments that do not have it, and for any arguments that ask for the same but for that flag. -/
theorem exit_code_tells (disk : Disk) (arguments : List String) (logFilter : Option String)
    (entropy : UInt32) :
    ExitCodeTells disk arguments entropy (run disk arguments logFilter entropy) ∧
    (∀ logFilter', Alike (run disk arguments logFilter' entropy)
      (run disk arguments logFilter entropy)) ∧
    (∀ first, first = "-q" ∨ first = "--quiet" →
      (∀ argument ∈ arguments, ¬ GivesQuiet argument) →
      Alike (run disk (first :: arguments) logFilter entropy)
        (run disk arguments logFilter entropy)) ∧
    ∀ arguments' invocation quiet, Invocation.ofArguments arguments = .ok invocation →
      Invocation.ofArguments arguments' = .ok { invocation with quiet } →
      Alike (run disk arguments' logFilter entropy) (run disk arguments logFilter entropy) := by
  refine ⟨exitCodeTells _ _ _ _, fun _ => alike_of_logFilter _ _ _ _ _, ?_, ?_⟩
  · exact fun first hfirst h => alike_of_quiet hfirst h
  · exact fun arguments' invocation quiet h h' => alike_of_accepted h h'

/-- A name given quietly, with the flag in front and with the flag in a cluster, and a value that is
    missing. -/
theorem quiet_runs_alike :
    Alike (run .empty ["-q", "-n", "x"] none 0) (run .empty ["-n", "x"] none 0) ∧
      Alike (run .empty ["-qnx"] none 0) (run .empty ["-n", "x"] none 0) ∧
      (run .empty ["-n"] none 0).1.Exits 2 ∧ (run .empty ["-n"] none 0).2 = .empty := by
  have hfree : ∀ argument ∈ ["-n", "x"], ¬ GivesQuiet argument := by
    intro argument hmem h
    obtain ⟨c, rest, hlist, hc⟩ := h.exists_toList
    rcases List.mem_pair.1 hmem with rfl | rfl
    · have hc' : 'n' = c := (List.cons.inj (List.cons.inj hlist).2).1
      subst hc'
      revert hc
      decide
    · cases (List.cons.inj hlist).1
  have hnamed : Invocation.ofArguments ["-n", "x"] = .ok ⟨"x", false, {}⟩ := by decide +kernel
  have hquiet : Invocation.ofArguments ["-qnx"] = .ok ⟨"x", true, {}⟩ := by decide +kernel
  have hmissing : (run .empty ["-n"] none 0).1.Exits 2 :=
    (exit_code_tells .empty ["-n"] none 0).1.two.2
      (.inl ⟨.invalidValue, by decide +kernel, by decide, by decide⟩)
  obtain ⟨-, -, hfront, halike⟩ := exit_code_tells .empty ["-n", "x"] none 0
  exact ⟨hfront "-q" (.inl rfl) hfree, halike _ _ true hnamed hquiet, hmissing,
    (exit_code_tells .empty ["-n"] none 0).1.two_untouched hmissing⟩

end Thicket.Command
