import HostBindings.Proofs.Runs.Units

/-!
# Failures stay with their blocks

A block that fails leaves nothing behind: the unit, the names that are taken and the outcomes of all
other blocks are those of a run that passes the failed blocks over, and whose sinks never fail. The
failures may be of any kind and in any pattern.

## Main definitions

* `Generator.runPassingOver` — a run that passes some blocks over
* `Generator.passedOver` — the outcome of a block in that run
* `Generator.Mirrors` — states of two runs, one of which passes failed blocks over

## Main results

* `Generator.Mirrors.runBlock`, `Generator.Mirrors.blocks` — one block, and all of them
* `Generator.run_isolates_failures`
-/

namespace HostBindings.Generator

open Api (Block Schema)

variable {σ η τ : Type}

/-- Generates a block, or passes it over. -/
def runBlockUnless (generator : Generator) (destination : Destination σ η) (shared : Bool)
    (passed : Nat → Bool) (entry : Block × Nat) : Running σ Unit :=
  if passed entry.2 then generator.passOver entry.1
  else generator.runBlock destination shared entry.1

/-- Generates the blocks of a description in order, and passes over those at certain places. -/
def runPassingOver (generator : Generator) (destination : Destination σ η) (shared : Bool)
    (passed : Nat → Bool) (schema : Schema) : Running σ RunReport :=
  generator.runThrough schema
    (schema.blocks.zipIdx.forM (generator.runBlockUnless destination shared passed))

variable {generator : Generator}

/-! ### One block -/

/-- The outcome that a block has in a run that passes it over if it fails. -/
def passedOver (generator : Generator) (outcome : Outcome) : Outcome :=
  if outcome.result.isFailed then
    ⟨outcome.name, .skipped generator.settings.processFilter.text⟩
  else outcome

/-- The states of two runs between two blocks, where the second one passes over what fails in the
first one. -/
structure Mirrors (generator : Generator) (full : RunState (DeclarationUnit × τ))
    (reference : RunState DeclarationUnit) : Prop where
  /-- The same text is committed. -/
  unit : reference.destination = full.destination.1
  /-- The same names are taken. -/
  reserved : reference.reserved = full.reserved
  /-- The outcomes are the same but for blocks that failed. -/
  outcomes : reference.outcomes = full.outcomes.map generator.passedOver

variable {faults : Faults τ} {block : Block} {place : Nat}
  {before after : RunState (DeclarationUnit × τ)} {reference : RunState DeclarationUnit}
  {result : Except Interruption Unit}

theorem Mirrors.adds {reserved : List String} {outcomes : List Outcome}
    {next : RunState DeclarationUnit} (mirrors : generator.Mirrors before reference)
    (adds : before.Adds after reserved outcomes)
    (others : reference.Adds next reserved (outcomes.map generator.passedOver))
    (unit : next.destination = after.destination.1) : generator.Mirrors after next where
  unit := unit
  reserved := others.reserved.trans adds.reserved.symm
  outcomes := by rw [others.outcomes, adds.outcomes, mirrors.outcomes, List.map_append]

theorem runBlockUnless_of_passed {destination : Destination σ η} {shared : Bool}
    {passed : Nat → Bool} (yes : passed place = true) :
    generator.runBlockUnless destination shared passed (block, place) =
      generator.passOver block := if_pos yes

theorem runBlockUnless_of_not_passed {destination : Destination σ η} {shared : Bool}
    {passed : Nat → Bool} (no : passed place = false) :
    generator.runBlockUnless destination shared passed (block, place) =
      generator.runBlock destination shared block := if_neg (by simp [no])

/-- One block: what it does in a run, it does in the run that passes it over if it fails. -/
theorem Mirrors.runBlock (mirrors : generator.Mirrors before reference)
    (ended : generator.BlockEnd (.toUnitWith faults) true block before result after)
    {outcomes : List Outcome} (added : after.outcomes = before.outcomes ++ outcomes)
    {passed : Nat → Bool} (agrees : passed place = (outcomes[0]?).any (·.result.isFailed)) :
    ∃ next, (generator.runBlockUnless .toUnit true passed (block, place)).outcome reference =
        (result, next) ∧
      generator.Mirrors after next := by
  cases ended with
  | unprepared prepared same adds =>
    rw [adds.outcomes, List.append_cancel_left_eq] at added
    subst added
    rw [← mirrors.reserved] at prepared
    obtain ⟨stopped, unit, others⟩ := runBlock_of_unprepared .toUnit true prepared
    rw [runBlockUnless_of_not_passed agrees]
    refine ⟨_, Prod.ext stopped rfl, mirrors.adds adds (mirrors.reserved ▸ others) ?_⟩
    exact unit.trans (mirrors.unit.trans (congrArg Prod.fst same.symm))
  | skipped prepared same adds =>
    rw [adds.outcomes, List.append_cancel_left_eq] at added
    subst added
    rw [← mirrors.reserved] at prepared
    obtain ⟨skipped, unit, others⟩ := runBlock_of_skipped .toUnit true prepared
    rw [runBlockUnless_of_not_passed agrees]
    refine ⟨_, Prod.ext skipped rfl, mirrors.adds adds (mirrors.reserved ▸ others) ?_⟩
    exact unit.trans (mirrors.unit.trans (congrArg Prod.fst same.symm))
  | lost _ opening => exact absurd opening (Destination.openFor_toUnitWith_ne_path _ _ _)
  | failed fault _ keeps adds =>
    rw [adds.outcomes, List.append_cancel_left_eq] at added
    subst added
    -- the sinks of a failed block leave nothing in the unit, as if it had been passed over
    obtain ⟨skipped, unit, others⟩ := passOver_adds generator block reference
    rw [runBlockUnless_of_passed agrees]
    refine ⟨_, Prod.ext skipped rfl, mirrors.adds adds (mirrors.reserved ▸ others) ?_⟩
    exact unit.trans (mirrors.unit.trans keeps.unit.symm)
  | generated prepared run keeps committed adds =>
    rw [adds.outcomes, List.append_cancel_left_eq] at added
    subst added
    rw [← mirrors.reserved] at prepared
    obtain ⟨next, ran, unit, others⟩ := outcome_runBlock_toUnit true prepared run
    rw [runBlockUnless_of_not_passed agrees]
    refine ⟨next, ran, mirrors.adds adds others ?_⟩
    rw [unit, Destination.commit_toUnitWith committed, keeps.unit, mirrors.unit]

/-! ### All blocks -/

/-- All blocks, from a place on: what they do in a run, they do in the run that passes over those
that fail. -/
theorem Mirrors.blocks (faults : Faults τ) (place : Nat) {blocks : List Block}
    (mirrors : generator.Mirrors before reference) {outcomes : List Outcome}
    (added :
      ((blocks.forM (generator.runBlock (.toUnitWith faults) true)).outcome before).2.outcomes =
        before.outcomes ++ outcomes)
    (passed : Nat → Bool)
    (agrees : ∀ index, passed (place + index) = (outcomes[index]?).any (·.result.isFailed)) :
    ∃ next,
      ((blocks.zipIdx place).forM (generator.runBlockUnless .toUnit true passed)).outcome
          reference =
        (((blocks.forM (generator.runBlock (.toUnitWith faults) true)).outcome before).1, next) ∧
      generator.Mirrors
        ((blocks.forM (generator.runBlock (.toUnitWith faults) true)).outcome before).2 next := by
  induction blocks generalizing place before reference outcomes with
  | nil => exact ⟨reference, rfl, mirrors⟩
  | cons block rest ih =>
    have ended := blockEnd_runBlock generator (.toUnitWith faults) true block before
    rw [Running.outcome_forM_cons] at added ⊢
    rw [List.zipIdx_cons, Running.outcome_forM_cons]
    rcases step : (generator.runBlock (.toUnitWith faults) true block).outcome before with
      ⟨result, after⟩
    rw [step] at ended added
    -- the outcome of the first block is the first of those that are added
    have here := agrees 0
    rw [Nat.add_zero] at here
    rcases ended.outcomes with ⟨outcome, rfl, one⟩ | ⟨cause, rfl, none⟩
    · obtain ⟨more, grown⟩ := exists_outcomes generator (.toUnitWith faults) true rest after
      have split : outcomes = outcome :: more := by
        have both := grown.symm.trans added
        rw [one, List.append_assoc, List.append_cancel_left_eq] at both
        exact both.symm
      subst split
      obtain ⟨next, ran, mirrored⟩ := mirrors.runBlock ended one here
      rw [ran]
      exact ih (place + 1) mirrored grown fun index => by
        rw [Nat.add_assoc, Nat.add_comm 1]
        exact agrees (index + 1)
    · obtain ⟨next, ran, mirrored⟩ := mirrors.runBlock ended added here
      rw [ran]
      exact ⟨next, rfl, mirrored⟩

/-- The places at which a block failed. -/
def failedAt (outcomes : List Outcome) (place : Nat) : Bool :=
  (outcomes[place]?).any (·.result.isFailed)

/-- The run that passes over the blocks that failed in another one, into a unit whose sinks never
fail. -/
def referenceRun (generator : Generator) (full : RunState (DeclarationUnit × τ)) (schema : Schema) :
    Except Interruption RunReport × RunState DeclarationUnit :=
  (generator.runPassingOver .toUnit true (failedAt full.outcomes) schema).outcome
    { destination := { source := schema.source } }

/-- Failures stay with their blocks. Whichever sinks fail, and whichever passes do, the unit, the
taken names, the outcomes of the other blocks and what ends the run are those of a run whose sinks
never fail and that passes over the blocks that failed. -/
theorem run_isolates_failures (generator : Generator) (faults : Faults τ) (memory : τ)
    (schema : Schema) :
    let full := generator.runWith faults memory schema
    let reference := generator.referenceRun full.2 schema
    reference.2.destination = full.2.destination.1 ∧
      reference.2.reserved = full.2.reserved ∧
      reference.2.outcomes = full.2.outcomes.map generator.passedOver ∧
      (reference.1.map fun _ => ()) = full.1.map fun _ => () := by
  simp only [runWith, referenceRun, runPassingOver, run_eq, outcome_runThrough]
  cases generator.blockSymbols schema with
  | error fault => exact ⟨rfl, rfl, rfl, rfl⟩
  | ok symbols =>
    let before : RunState (DeclarationUnit × τ) :=
      { destination := ({ source := schema.source }, memory), reserved := symbols }
    have start : generator.Mirrors before
        { destination := { source := schema.source }, reserved := symbols } := ⟨rfl, rfl, rfl⟩
    obtain ⟨outcomes, all⟩ :=
      exists_outcomes generator (.toUnitWith faults) true schema.blocks before
    have mirrored := start.blocks faults 0 all
    rw [List.nil_append] at all
    dsimp only
    rcases ran : (schema.blocks.forM (generator.runBlock (.toUnitWith faults) true)).outcome before
      with ⟨result, after⟩
    rw [ran] at all mirrored
    -- the reference run is told the failures of the whole run, and each block looks up its own
    obtain ⟨next, same, mirrors⟩ := mirrored (failedAt after.outcomes) fun index => by
      rw [Nat.zero_add, failedAt, all]
    cases result with
    | error | ok =>
      rw [same]
      exact ⟨mirrors.unit, mirrors.reserved, mirrors.outcomes, rfl⟩

end HostBindings.Generator
