import HostBindings.Proofs.Emission.Faults
import HostBindings.Proofs.Runs.Blocks

/-!
# Runs that are watched

A destination can be watched: every use that a run makes of it is written down, and every opening
gets a number that its handle keeps. Watching changes nothing else. So it can be read off the uses
what happened to the destination of each block: nothing, a refused opening, or an opening with one
end, which is a commit or a release.

## Main definitions

* `Destination.Use`, `Destination.watched` — uses, and a destination that is watched
* `Generator.Life` — what became of a block, with the uses of its destination
* `Generator.Lives` — the blocks of a run, one after another
* `Generator.Prepares` — settings with which every block is prepared

## Main results

* `Generator.exists_life` — one block
* `Generator.exists_lives` — all of them
* `Generator.Lives.ends_once` — every opening has one end
-/

namespace HostBindings

open Api (Block)

variable {σ η : Type}

/-! ### Uses of a destination -/

/-- A use of a destination. Openings that succeed are numbered from zero. -/
inductive Destination.Use where
  /-- An opening is refused. -/
  | refused (fault : OpenFault)
  /-- The destination is opened. -/
  | opened (number : Nat)
  /-- A text is handed over, which closes what was opened whether or not the text is taken. -/
  | closed (number : Nat) (taken : Except SinkError Unit)
  /-- What was opened is released. -/
  | released (number : Nat)

namespace Destination.Use

/-- The number of an opening. -/
def opening? : Use → Option Nat
  | opened number => some number
  | _ => none

/-- The number of what is closed or released. -/
def ending? : Use → Option Nat
  | closed number _ | released number => some number
  | _ => none

/-- The number of openings. -/
def openings (uses : List Use) : Nat := (uses.filterMap opening?).length

theorem openings_append (uses more : List Use) :
    openings (uses ++ more) = openings uses + openings more := by
  simp [openings]

end Destination.Use

open Destination (Use)

/-- The state of a destination, with the uses so far. -/
structure Watched (σ : Type) where
  /-- The state. -/
  state : σ
  /-- The uses, in order. -/
  uses : List Use := []

/-- A destination whose uses are written down. -/
def Destination.watched (destination : Destination σ η) :
    Destination (Watched σ) (η × Nat) where
  openFor block symbol before :=
    match destination.openFor block symbol before.state with
    | (.error fault, after) => (.error fault, ⟨after, before.uses ++ [.refused fault]⟩)
    | (.ok handle, after) =>
      let number := Use.openings before.uses
      (.ok (handle, number), ⟨after, before.uses ++ [.opened number]⟩)
  opened handle := destination.opened handle.1
  commit handle sink before :=
    let (taken, after) := destination.commit handle.1 sink before.state
    (taken, ⟨after, before.uses ++ [.closed handle.2 taken]⟩)
  release handle before :=
    ⟨destination.release handle.1 before.state, before.uses ++ [.released handle.2]⟩

/-- The state of a run whose destination is watched. -/
def RunState.watched (state : RunState σ) (uses : List Use) : RunState (Watched σ) where
  destination := ⟨state.destination, uses⟩
  reserved := state.reserved
  outcomes := state.outcomes
  warnings := state.warnings
  log := state.log

namespace Generator

/-! ### One block -/

/-- What became of a block, with the uses of its destination; `number` counts the openings before.
A block is passed over, or its destination is refused, or it is opened and then released where the
pass fails, and closed where it succeeds. -/
inductive Life (generator : Generator) (block : Block) (number : Nat) :
    BlockResult → List Use → Prop where
  /-- The block is passed over. -/
  | skipped :
      generator.settings.allows block.info.processes = .ok false →
      Life generator block number (.skipped generator.settings.processFilter.text) []
  /-- The destination is not opened. -/
  | refused {error : SinkError} :
      generator.settings.allows block.info.processes = .ok true →
      Life generator block number (.failed (.sink error)) [.refused (.sink error)]
  /-- The pass fails. -/
  | broken {reserved : List String} {start pass : Pass} {fault : PassFault} :
      generator.prepare block reserved = .ok (some start) →
      (generator.emission block).outcome start = (.error fault, pass) →
      Life generator block number (.failed (.pass fault)) [.opened number, .released number]
  /-- The text is not taken. -/
  | rejected {reserved : List String} {start pass : Pass} {nested : Nat} {error : SinkError} :
      generator.prepare block reserved = .ok (some start) →
      Emit.Runs (generator.emission block) start nested pass →
      Life generator block number (.failed (.sink error))
        [.opened number, .closed number (.error error)]
  /-- The text is taken. -/
  | generated {reserved : List String} {start pass : Pass} {nested : Nat} :
      generator.prepare block reserved = .ok (some start) →
      Emit.Runs (generator.emission block) start nested pass →
      Life generator block number (.generated nested)
        [.opened number, .closed number (.ok ())]

variable {generator : Generator} {block : Block} {state : RunState σ}

/-- A block is skipped exactly where it is not allowed. -/
theorem Life.isSkipped_iff {number : Nat} {result : BlockResult} {uses : List Use}
    (life : generator.Life block number result uses) :
    result.isSkipped = true ↔ generator.settings.allows block.info.processes = .ok false := by
  cases life with
  | skipped forbidden => exact iff_of_true rfl forbidden
  | refused allowed =>
    rw [allowed]
    exact iff_of_false nofun nofun
  | broken prepared | rejected prepared | generated prepared =>
    rw [(prepare_eq_some.mp prepared).1]
    exact iff_of_false nofun nofun

/-- A pass whose destination is open comes to an end, with one more use. -/
theorem exists_life_runPass (destination : Destination σ η) (shared : Bool) (state : RunState σ)
    {before : List String} {start : Pass}
    (prepared : generator.prepare block before = .ok (some start)) (handle : η) (number : Nat)
    (uses : List Use) :
    ∃ after result more,
      (generator.runPass destination shared block start handle).outcome state = (.ok (), after) ∧
      (generator.runPass destination.watched shared block start (handle, number)).outcome
        (state.watched uses) = (.ok (), after.watched (uses ++ more)) ∧
      after.outcomes = state.outcomes ++ [⟨block.name, result⟩] ∧
      generator.Life block number result (.opened number :: more) := by
  rw [outcome_runPass, outcome_runPass]
  rcases emitted : (generator.emission block).outcome start with ⟨fault | nested, pass⟩
  · exact ⟨_, _, _, rfl, rfl, rfl, .broken prepared emitted⟩
  dsimp only
  rw [outcome_commitPass, outcome_commitPass]
  rcases committed : destination.commit handle pass.sink state.destination with
    ⟨error | _, after⟩
  all_goals simp only [Destination.watched, RunState.watched, committed]
  · exact ⟨_, _, _, rfl, rfl, rfl, .rejected prepared emitted⟩
  · exact ⟨_, _, _, rfl, rfl, rfl, .generated prepared emitted⟩

/-- A block that is prepared, and whose destination is not lost, comes to an end. Watching the
destination shows how. -/
theorem exists_life (destination : Destination σ η) (shared : Bool) {start? : Option Pass}
    (prepared : generator.prepare block state.reserved = .ok start?)
    (found : ∀ symbol fault,
      (destination.openFor block symbol state.destination).1 ≠ .error (.path fault))
    (uses : List Use) :
    ∃ after result more,
      (generator.runBlock destination shared block).outcome state = (.ok (), after) ∧
      (generator.runBlock destination.watched shared block).outcome (state.watched uses) =
        (.ok (), after.watched (uses ++ more)) ∧
      after.outcomes = state.outcomes ++ [⟨block.name, result⟩] ∧
      generator.Life block (Use.openings uses) result more := by
  cases start? with
  | none =>
    -- a block that is passed over asks nothing of the destination
    have forbidden := prepare_eq_none.mp prepared
    simp only [outcome_runBlock, prepared, RunState.watched, passOver, Running.outcome_bind,
      Running.outcome_note, Running.outcome_finish]
    refine ⟨_, _, [], rfl, ?_, rfl, .skipped forbidden⟩
    rw [List.append_nil]
    rfl
  | some start =>
    obtain ⟨allowed, -⟩ := prepare_eq_some.mp prepared
    rcases opening : destination.openFor block start.scope.symbol state.destination with
      ⟨⟨error | fault⟩ | handle, opened⟩
    · simp only [outcome_runBlock, prepared, opening, Destination.watched, RunState.watched,
        Running.outcome_bind, Running.outcome_note, Running.outcome_finish]
      exact ⟨_, _, _, rfl, rfl, rfl, .refused allowed⟩
    · exact absurd (congrArg Prod.fst opening) (found _ _)
    · -- the opening is the first use, and what the pass does comes behind it
      obtain ⟨after, result, more, ran, seen, outcomes, life⟩ :=
        exists_life_runPass destination shared { state.begin block with destination := opened }
          prepared handle (Use.openings uses) (uses ++ [.opened (Use.openings uses)])
      refine ⟨after, result, .opened (Use.openings uses) :: more, ?_, ?_, outcomes, life⟩
      · simp only [outcome_runBlock, prepared, opening]
        exact ran
      · simp only [outcome_runBlock, prepared, opening, Destination.watched, RunState.watched]
        rw [List.append_assoc] at seen
        exact seen

/-! ### All blocks -/

/-- The blocks of a run one after another, with their outcomes and the uses of the destination;
`number` counts the openings before. -/
inductive Lives (generator : Generator) : (number : Nat) → List Block → List Outcome → List Use →
    Prop where
  /-- No block. -/
  | nil {number : Nat} : Lives generator number [] [] []
  /-- One block, and then others. -/
  | cons {number : Nat} {block : Block} {blocks : List Block} {result : BlockResult}
      {outcomes : List Outcome} {uses more : List Use} :
      generator.Life block number result uses →
      Lives generator (number + Use.openings uses) blocks outcomes more →
      Lives generator number (block :: blocks) (⟨block.name, result⟩ :: outcomes) (uses ++ more)

/-- Settings with which every block is prepared, whichever names are taken. -/
def Prepares (generator : Generator) : Prop :=
  ∀ block reserved, ∃ start?, generator.prepare block reserved = .ok start?

/-- Blocks that are prepared, and whose destinations are not lost, all come to an end. -/
theorem exists_lives (prepares : generator.Prepares) (destination : Destination σ η)
    (shared : Bool)
    (found : ∀ block symbol before fault,
      (destination.openFor block symbol before).1 ≠ .error (.path fault))
    (blocks : List Block) (state : RunState σ) (uses : List Use) :
    ∃ after outcomes more,
      (blocks.forM (generator.runBlock destination shared)).outcome state = (.ok (), after) ∧
      (blocks.forM (generator.runBlock destination.watched shared)).outcome
        (state.watched uses) = (.ok (), after.watched (uses ++ more)) ∧
      after.outcomes = state.outcomes ++ outcomes ∧
      generator.Lives (Use.openings uses) blocks outcomes more := by
  induction blocks generalizing state uses with
  | nil => exact ⟨state, [], [], rfl, by rw [List.append_nil]; rfl, by simp, .nil⟩
  | cons block rest ih =>
    obtain ⟨_, prepared⟩ := prepares block state.reserved
    obtain ⟨middle, result, first, ran, seen, one, life⟩ :=
      exists_life destination shared prepared (fun _ _ => found _ _ _ _) uses
    -- the uses of the other blocks come behind those of the first
    obtain ⟨after, outcomes, more, others, watched, all, lives⟩ := ih middle (uses ++ first)
    rw [Use.openings_append] at lives
    rw [List.append_assoc] at watched
    refine ⟨after, ⟨block.name, result⟩ :: outcomes, first ++ more, ?_, ?_, ?_, .cons life lives⟩
    · rw [Running.outcome_forM_cons, ran]
      exact others
    · rw [Running.outcome_forM_cons, seen]
      exact watched
    · rw [all, one, List.append_assoc]
      rfl

namespace Lives

variable {number : Nat} {blocks : List Block} {outcomes : List Outcome} {uses : List Use}

/-- There is one outcome for each block, in order. -/
theorem names (lives : generator.Lives number blocks outcomes uses) :
    outcomes.map (·.name) = blocks.map (·.name) := by
  induction lives with
  | nil => rfl
  | cons _ _ ih => rw [List.map_cons, List.map_cons, ih]

/-- What is opened is closed or released, once, and nothing else is: the numbers of the openings
and those of the ends are the same, each after the one before. -/
theorem ends_once (lives : generator.Lives number blocks outcomes uses) :
    uses.filterMap Use.opening? = List.range' number (Use.openings uses) ∧
      uses.filterMap Use.ending? = List.range' number (Use.openings uses) := by
  induction lives with
  | nil => exact ⟨rfl, rfl⟩
  | @cons number _ _ _ _ uses more life _ ih =>
    -- one block opens its destination once or not at all
    have one : uses.filterMap Use.opening? = List.range' number (Use.openings uses) ∧
        uses.filterMap Use.ending? = List.range' number (Use.openings uses) := by
      cases life <;> exact ⟨rfl, rfl⟩
    rw [List.filterMap_append, List.filterMap_append, Use.openings_append, one.1, one.2, ih.1, ih.2,
      List.range'_append_1]
    exact ⟨rfl, rfl⟩

/-- Every outcome is one of a block that lived it. -/
theorem forall₂ (lives : generator.Lives number blocks outcomes uses) :
    List.Forall₂ (fun block outcome => outcome.name = block.name ∧
      ∃ number uses, generator.Life block number outcome.result uses) blocks outcomes := by
  induction lives with
  | nil => exact .nil
  | cons life _ ih => exact .cons ⟨rfl, _, _, life⟩ ih

end Lives

end Generator

end HostBindings
