import HostBindings.Proofs.Runs.Blocks

/-!
# Units whose sinks fail

The sinks of one unit may fail in any pattern: an opening or a commit may be refused for whatever
reason, and the reasons may depend on everything that happened before. Only what is committed
reaches the unit.

## Main definitions

* `Faults` — a pattern of failures
* `Destination.toUnitWith` — one unit whose sinks fail in a pattern
* `Generator.runWith` — a run into such a unit

## Main results

* `Destination.Keeps.unit` — what is refused does not reach the unit
* `Generator.outcome_runBlock_toUnit` — a pass that succeeds reaches a unit whose sinks never fail
-/

namespace HostBindings

open Api (Block)

/-- A pattern of failures, which may depend on all openings, commits and releases before: `τ` is
what it remembers of them. -/
structure Faults (τ : Type) where
  /-- The error of an opening, if it is refused. -/
  opening : Block → String → τ → Option SinkError × τ
  /-- The error of a commit, if it is refused. -/
  committing : Sink → τ → Option SinkError × τ
  /-- What is remembered of a release. -/
  releasing : τ → τ := fun memory => memory

/-- The pattern in which nothing fails. -/
def Faults.none : Faults Unit where
  opening _ _ memory := (.none, memory)
  committing _ memory := (.none, memory)

variable {τ : Type}

/-- One unit that takes the text of every block, unless the pattern refuses it. -/
def Destination.toUnitWith (faults : Faults τ) : Destination (DeclarationUnit × τ) Unit where
  openFor block symbol state :=
    match faults.opening block symbol state.2 with
    | (some error, memory) => (.error (.sink error), state.1, memory)
    | (.none, memory) => (.ok (), state.1, memory)
  commit _ sink state :=
    match faults.committing sink state.2 with
    | (some error, memory) => (.error error, state.1, memory)
    | (.none, memory) => (.ok (), state.1.commit sink, memory)
  release _ state := (state.1, faults.releasing state.2)

namespace Destination

variable {faults : Faults τ} {before after : DeclarationUnit × τ}

/-- No opening ends the run. -/
theorem openFor_toUnitWith_ne_path (block : Block) (symbol : String) (fault : FileFault) :
    ((toUnitWith faults).openFor block symbol before).1 ≠ .error (.path fault) := by
  simp only [toUnitWith]
  split <;> simp

/-- An accepted commit adds the text to the unit. -/
theorem commit_toUnitWith {handle : Unit} {sink : Sink}
    (committed : (toUnitWith faults).commit handle sink before = (.ok (), after)) :
    after.1 = before.1.commit sink := by
  simp only [toUnitWith] at committed
  split at committed
  · simp at committed
  · rw [← (Prod.mk.inj committed).2]

/-- Nothing but a commit changes the unit. -/
theorem Keeps.unit (keeps : (toUnitWith faults).Keeps before after) : after.1 = before.1 := by
  induction keeps with
  | refl => rfl
  | opened block symbol _ same =>
    rw [← same]
    simp only [toUnitWith]
    split <;> rfl
  | released handle _ same => exact same
  | @refused middle handle sink error failed _ same =>
    rw [← same]
    simp only [toUnitWith] at failed ⊢
    split at failed <;> simp_all

end Destination

namespace Generator

variable {generator : Generator} {block : Block}

/-- A block whose pass succeeds is generated into a unit whose sinks never fail. -/
theorem outcome_runBlock_toUnit {start pass : Pass} {nested : Nat} (shared : Bool)
    {state : RunState DeclarationUnit}
    (prepared : generator.prepare block state.reserved = .ok (some start))
    (emitted : Emit.Runs (generator.emission block) start nested pass) :
    ∃ after, (generator.runBlock .toUnit shared block).outcome state = (.ok (), after) ∧
      after.destination = state.destination.commit pass.sink ∧
      state.Adds after (if shared then pass.scope.names else state.reserved)
        [⟨block.name, .generated nested⟩] := by
  have ran : (generator.emission block).run.run start = (.ok nested, pass) := emitted
  simp only [outcome_runBlock, prepared, Destination.toUnit, runPass, commitPass,
    Running.outcome_bind, Running.outcome_log, Running.outcome_modify, ran, Running.outcome_get,
    Running.outcome_set]
  cases shared with
  | false => exact ⟨_, rfl, rfl, rfl, rfl⟩
  | true => exact ⟨_, rfl, rfl, rfl, rfl⟩

/-- The report of a run into a unit whose sinks fail in a pattern, or what ends the run, and the
state it leads to. -/
def runWith (generator : Generator) (faults : Faults τ) (memory : τ) (schema : Api.Schema) :
    Except Interruption RunReport × RunState (DeclarationUnit × τ) :=
  (generator.run (.toUnitWith faults) true schema).outcome
    { destination := ({ source := schema.source }, memory) }

end Generator

end HostBindings
