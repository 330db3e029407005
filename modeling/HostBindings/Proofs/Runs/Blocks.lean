import HostBindings.Generation
import HostBindings.Proofs.Emission.Runs

/-!
# What becomes of a block

A block ends a run, is passed over, fails, or is generated. This file says once what each of these
changes: only a generated block commits text, and only its names are taken for the blocks after it.

## Main definitions

* `Running.outcome` — the result of an action of a run and the state it leads to
* `Generator.prepare` — what is settled of a block before its destination is opened
* `Destination.Keeps` — changes of a destination that commit nothing
* `Generator.BlockEnd` — the ways a block can end
* `Generator.runThrough` — what a run does before and behind its blocks

## Main results

* `Generator.outcome_runBlock`, `Generator.outcome_runPass`, `Generator.outcome_commitPass` — one
  block, step by step
* `Generator.blockEnd_runBlock` — every block ends in one of these ways
* `Generator.holds_blocks`, `Generator.between_blocks` — what every block keeps
* `Generator.outcome_runThrough`, `Generator.reviewAndRun_eq` — a whole run, and the review before
-/

namespace HostBindings

open Api (Block)

variable {σ η α β : Type}

/-! ### Actions of a run -/

namespace Running

/-- The result of an action, or what interrupts it, and the state it leads to. -/
def outcome (action : Running σ α) (before : RunState σ) :
    Except Interruption α × RunState σ :=
  action.run.run before

variable {state : RunState σ}

theorem outcome_bind (action : Running σ α) (next : α → Running σ β) :
    outcome (action >>= next) state =
      match action.outcome state with
      | (.ok a, after) => (next a).outcome after
      | (.error cause, after) => (.error cause, after) := by
  unfold outcome
  rw [ExceptT.run_bind, StateT.run_bind]
  rcases (action.run.run state : Except Interruption α × RunState σ) with ⟨_ | a, after⟩ <;> rfl

@[simp] theorem outcome_pure (a : α) :
    outcome (pure a : Running σ α) state = (.ok a, state) := rfl

@[simp] theorem outcome_throw (cause : Interruption) :
    outcome (throw cause : Running σ α) state = (.error cause, state) := rfl

@[simp] theorem outcome_get : outcome (get : Running σ _) state = (.ok state, state) := rfl

@[simp] theorem outcome_set (after : RunState σ) :
    outcome (set after : Running σ PUnit) state = (.ok (), after) := rfl

@[simp] theorem outcome_modify (change : RunState σ → RunState σ) :
    outcome (modify change : Running σ PUnit) state = (.ok (), change state) := rfl

@[simp] theorem outcome_log (records : Log) :
    outcome (log records : Running σ Unit) state =
      (.ok (), { state with log := state.log ++ records }) := rfl

@[simp] theorem outcome_note (level : Level) (message : String) :
    outcome (note level message : Running σ Unit) state =
      (.ok (), { state with log := state.log ++ [⟨level, message⟩] }) := rfl

@[simp] theorem outcome_finish (block : Block) (result : BlockResult) :
    outcome (finish block result : Running σ Unit) state =
      (.ok (), { state with outcomes := state.outcomes ++ [⟨block.name, result⟩] }) := rfl

theorem outcome_setting (result : Except UseFault α) :
    outcome (setting result : Running σ α) state = (result.mapError .setting, state) := by
  cases result <;> rfl

/-- Going through nothing changes nothing. -/
theorem outcome_forM_nil (f : α → Running σ PUnit) :
    outcome (([] : List α).forM f) state = (.ok (), state) := rfl

/-- A list gone through: the first item, then the others unless that interrupts the run. -/
theorem outcome_forM_cons (f : α → Running σ PUnit) (x : α) (xs : List α) :
    outcome ((x :: xs).forM f) state =
      match (f x).outcome state with
      | (.ok _, after) => (xs.forM f).outcome after
      | (.error cause, after) => (.error cause, after) := by
  change outcome (f x >>= fun _ => xs.forM f) state = _
  rw [outcome_bind]
  rcases (f x).outcome state with ⟨_ | _, after⟩ <;> rfl

end Running

/-! ### Ends of a block -/

/-- What is settled of a block before its destination is opened: nothing to generate where it is
passed over, else the state that its pass starts in. -/
def Generator.prepare (generator : Generator) (block : Block) (reserved : List String) :
    Except UseFault (Option Pass) := do
  if ← generator.settings.allows block.info.processes then
    return some (← Pass.start generator block reserved)
  else return none

/-- Changes of a destination that commit nothing: openings, releases and refused commits. -/
inductive Destination.Keeps (destination : Destination σ η) (before : σ) : σ → Prop where
  /-- No change. -/
  | refl : Keeps destination before before
  /-- An opening. -/
  | opened {after : σ} (block : Block) (symbol : String) : Keeps destination before after →
      Keeps destination before (destination.openFor block symbol after).2
  /-- A release. -/
  | released {after : σ} (handle : η) : Keeps destination before after →
      Keeps destination before (destination.release handle after)
  /-- A commit that is refused. -/
  | refused {after : σ} {handle : η} {sink : Sink} {error : SinkError} :
      (destination.commit handle sink after).1 = .error error → Keeps destination before after →
      Keeps destination before (destination.commit handle sink after).2

/-- What a block leaves as it was: the names that are taken. -/
structure RunState.Adds (before after : RunState σ) (reserved : List String)
    (outcomes : List Outcome) : Prop where
  /-- The names that are taken. -/
  reserved : after.reserved = reserved
  /-- One more outcome, or none. -/
  outcomes : after.outcomes = before.outcomes ++ outcomes

/-- The ways a block can end. -/
inductive Generator.BlockEnd (generator : Generator) (destination : Destination σ η)
    (shared : Bool) (block : Block) (before : RunState σ) :
    Except Interruption Unit → RunState σ → Prop where
  /-- A setting cannot be used: the run ends. -/
  | unprepared {fault : UseFault} {after : RunState σ} :
      generator.prepare block before.reserved = .error fault →
      after.destination = before.destination → before.Adds after before.reserved [] →
      BlockEnd generator destination shared block before (.error (.setting fault)) after
  /-- The block is passed over. -/
  | skipped {after : RunState σ} :
      generator.prepare block before.reserved = .ok none →
      after.destination = before.destination →
      before.Adds after before.reserved
        [⟨block.name, .skipped generator.settings.processFilter.text⟩] →
      BlockEnd generator destination shared block before (.ok ()) after
  /-- The destination cannot be opened at all: the run ends. -/
  | lost {start : Pass} {fault : FileFault} {after : RunState σ} :
      generator.prepare block before.reserved = .ok (some start) →
      (destination.openFor block start.scope.symbol before.destination).1 = .error (.path fault) →
      destination.Keeps before.destination after.destination →
      before.Adds after before.reserved [] →
      BlockEnd generator destination shared block before (.error (.path fault)) after
  /-- The block fails. -/
  | failed {start : Pass} {after : RunState σ} (fault : BlockFault) :
      generator.prepare block before.reserved = .ok (some start) →
      destination.Keeps before.destination after.destination →
      before.Adds after before.reserved [⟨block.name, .failed fault⟩] →
      BlockEnd generator destination shared block before (.ok ()) after
  /-- The block is generated. -/
  | generated {start pass : Pass} {nested : Nat} {handle : η} {middle : σ} {after : RunState σ} :
      generator.prepare block before.reserved = .ok (some start) →
      Emit.Runs (generator.emission block) start nested pass →
      destination.Keeps before.destination middle →
      destination.commit handle pass.sink middle = (.ok (), after.destination) →
      before.Adds after (if shared then pass.scope.names else before.reserved)
        [⟨block.name, .generated nested⟩] →
      BlockEnd generator destination shared block before (.ok ()) after

/-- The state of a run that begins with a block. -/
def RunState.begin (state : RunState σ) (block : Block) : RunState σ :=
  { state with log := state.log ++ [⟨.info, s!"Processing {block.name}"⟩] }

namespace Generator

variable {generator : Generator} {destination : Destination σ η} {shared : Bool} {block : Block}
  {before state : RunState σ}

/-- Where the filter cannot be used, nothing is settled. -/
theorem prepare_of_refused {reserved : List String} {fault : UseFault}
    (refused : generator.settings.allows block.info.processes = .error fault) :
    generator.prepare block reserved = .error fault := by
  simp [prepare, refused, bind, Except.bind]

/-- Where the filter forbids the block, nothing is to be generated. -/
theorem prepare_of_forbidden {reserved : List String}
    (forbidden : generator.settings.allows block.info.processes = .ok false) :
    generator.prepare block reserved = .ok none := by
  simp [prepare, forbidden, bind, Except.bind, pure, Except.pure]

/-- Where the filter allows the block, its pass starts if it can. -/
theorem prepare_of_allowed {reserved : List String}
    (allowed : generator.settings.allows block.info.processes = .ok true) :
    generator.prepare block reserved = (Pass.start generator block reserved).map some := by
  simp only [prepare, allowed, bind, Except.bind, if_true]
  cases Pass.start generator block reserved <;> rfl

/-- A block whose pass can start is one that is allowed. -/
theorem prepare_eq_some {reserved : List String} {start : Pass} :
    generator.prepare block reserved = .ok (some start) ↔
      generator.settings.allows block.info.processes = .ok true ∧
        Pass.start generator block reserved = .ok start := by
  rcases filtered : generator.settings.allows block.info.processes with fault | _ | _
  · simp [prepare_of_refused filtered]
  · simp [prepare_of_forbidden filtered]
  · simp [prepare_of_allowed filtered, map_eq_ok_iff]

/-- A block is passed over exactly where it is not allowed. -/
theorem prepare_eq_none {reserved : List String} :
    generator.prepare block reserved = .ok none ↔
      generator.settings.allows block.info.processes = .ok false := by
  rcases filtered : generator.settings.allows block.info.processes with fault | _ | _
  · simp [prepare_of_refused filtered]
  · simp [prepare_of_forbidden filtered]
  · simp [prepare_of_allowed filtered, map_eq_ok_iff]

/-- One block, by what is settled of it before, and by how its destination opens. -/
theorem outcome_runBlock (generator : Generator) (destination : Destination σ η) (shared : Bool)
    (block : Block) (state : RunState σ) :
    (generator.runBlock destination shared block).outcome state =
      match generator.prepare block state.reserved with
      | .error fault => (.error (.setting fault), state.begin block)
      | .ok none => (generator.passOver block).outcome (state.begin block)
      | .ok (some start) =>
        match destination.openFor block start.scope.symbol state.destination with
        | (.error (.path fault), opened) =>
          (.error (.path fault), { state.begin block with destination := opened })
        | (.error (.sink error), opened) =>
          (do
            Running.note .error s!"{block.name}: {error.message}"
            Running.finish block (.failed (.sink error)) : Running σ Unit).outcome
              { state.begin block with destination := opened }
        | (.ok handle, opened) =>
          (generator.runPass destination shared block start handle).outcome
            { state.begin block with destination := opened } := by
  simp only [runBlock, Running.outcome_bind, Running.outcome_note, Running.outcome_setting]
  -- the filter is asked before the pass has names, and the destination after it
  rcases filtered : generator.settings.allows block.info.processes with fault | _ | _
  · rw [prepare_of_refused filtered]
    rfl
  · rw [prepare_of_forbidden filtered]
    rfl
  · simp only [prepare_of_allowed filtered, mapError_ok, Bool.not_true, Bool.false_eq_true,
      if_false, Running.outcome_bind, Running.outcome_get, Running.outcome_setting]
    cases Pass.start generator block state.reserved with
    | error fault => rfl
    | ok start =>
      rcases opening : destination.openFor block start.scope.symbol state.destination with
        ⟨⟨error | fault⟩ | handle, opened⟩
      all_goals
        simp only [mapError_ok, Except.map, Running.outcome_modify, opening]
        rfl

/-- A finished pass that is handed over, by what its destination answers. -/
theorem outcome_commitPass (destination : Destination σ η) (shared : Bool) (block : Block)
    (handle : η) (pass : Pass) (nested : Nat) (state : RunState σ) :
    (commitPass destination shared block handle pass nested).outcome state =
      match destination.commit handle pass.sink state.destination with
      | (.error error, after) =>
        (.ok (),
          { state with
            destination := after
            outcomes := state.outcomes ++ [⟨block.name, .failed (.sink error)⟩]
            log := state.log ++ [⟨.error, s!"{block.name}: {error.message}"⟩] })
      | (.ok _, after) =>
        (.ok (),
          { state with
            destination := after
            reserved := if shared then pass.scope.names else state.reserved
            outcomes := state.outcomes ++ [⟨block.name, .generated nested⟩] }) := by
  simp only [commitPass, Running.outcome_bind, Running.outcome_get, Running.outcome_set]
  rcases committed : destination.commit handle pass.sink state.destination with ⟨error | _, after⟩
  all_goals simp only [committed]
  · rfl
  · cases shared <;> rfl

/-- The pass of a block, by how it ends. -/
theorem outcome_runPass (generator : Generator) (destination : Destination σ η) (shared : Bool)
    (block : Block) (start : Pass) (handle : η) (state : RunState σ) :
    (generator.runPass destination shared block start handle).outcome state =
      match (generator.emission block).outcome start with
      | (.error fault, pass) =>
        (.ok (),
          { state with
            destination := destination.release handle state.destination
            outcomes := state.outcomes ++ [⟨block.name, .failed (.pass fault)⟩]
            warnings := state.warnings ++ pass.warnings
            log := state.log ++ destination.opened handle ++ pass.log ++
              [⟨.error, s!"{block.name}: emission failed: {fault.message}"⟩] })
      | (.ok nested, pass) =>
        (commitPass destination shared block handle pass nested).outcome
          { state with
            warnings := state.warnings ++ pass.warnings
            log := state.log ++ destination.opened handle ++ pass.log } := by
  simp only [runPass, Running.outcome_bind, Running.outcome_log]
  rcases emitted : (generator.emission block).outcome start with ⟨fault | nested, pass⟩
  all_goals
    have ran : (generator.emission block).run.run start = _ := emitted
    rw [ran]
    rfl

/-- A block that is passed over is recorded, and changes nothing else. -/
theorem passOver_adds (generator : Generator) (block : Block) (state : RunState σ) :
    ((generator.passOver block).outcome state).1 = .ok () ∧
      ((generator.passOver block).outcome state).2.destination = state.destination ∧
      state.Adds ((generator.passOver block).outcome state).2 state.reserved
        [⟨block.name, .skipped generator.settings.processFilter.text⟩] :=
  ⟨rfl, rfl, rfl, rfl⟩

/-- A finished pass is handed over: the block is generated, or fails. -/
theorem blockEnd_commitPass {start pass : Pass} {nested : Nat} {handle : η}
    (prepared : generator.prepare block before.reserved = .ok (some start))
    (emitted : Emit.Runs (generator.emission block) start nested pass)
    (keeps : destination.Keeps before.destination state.destination)
    (same : before.Adds state before.reserved []) :
    generator.BlockEnd destination shared block before
      ((commitPass destination shared block handle pass nested).outcome state).1
      ((commitPass destination shared block handle pass nested).outcome state).2 := by
  rw [outcome_commitPass]
  rcases committed : destination.commit handle pass.sink state.destination with ⟨error | _, after⟩
  · have refused := Destination.Keeps.refused (by rw [committed]) keeps
    rw [committed] at refused
    refine .failed (.sink error) prepared refused ⟨same.reserved, ?_⟩
    simp [same.outcomes]
  · refine .generated prepared emitted keeps committed ⟨?_, ?_⟩
    · rw [← same.reserved]
    · simp [same.outcomes]

/-- A pass whose destination is open runs, and is handed over if it succeeds. -/
theorem blockEnd_runPass {start : Pass} {handle : η}
    (prepared : generator.prepare block before.reserved = .ok (some start))
    (keeps : destination.Keeps before.destination state.destination)
    (same : before.Adds state before.reserved []) :
    generator.BlockEnd destination shared block before
      ((generator.runPass destination shared block start handle).outcome state).1
      ((generator.runPass destination shared block start handle).outcome state).2 := by
  rw [outcome_runPass]
  rcases emitted : (generator.emission block).outcome start with ⟨fault | nested, pass⟩
  · refine .failed (.pass fault) prepared (.released handle keeps) ⟨same.reserved, ?_⟩
    simp [same.outcomes]
  · exact blockEnd_commitPass prepared emitted keeps ⟨same.reserved, same.outcomes⟩

/-- Every block ends in one of the ways. -/
theorem blockEnd_runBlock (generator : Generator) (destination : Destination σ η) (shared : Bool)
    (block : Block) (before : RunState σ) :
    generator.BlockEnd destination shared block before
      ((generator.runBlock destination shared block).outcome before).1
      ((generator.runBlock destination shared block).outcome before).2 := by
  rw [outcome_runBlock]
  cases prepared : generator.prepare block before.reserved with
  | error fault => exact .unprepared prepared rfl ⟨rfl, by simp [RunState.begin]⟩
  | ok start? =>
    cases start? with
    | none => exact .skipped prepared rfl ⟨rfl, rfl⟩
    | some start =>
      have keeps := Destination.Keeps.opened block start.scope.symbol
        (.refl : destination.Keeps before.destination before.destination)
      rcases opening : destination.openFor block start.scope.symbol before.destination with
        ⟨⟨error | fault⟩ | handle, opened⟩
      all_goals
        simp only [opening] at keeps ⊢
      · exact .failed (.sink error) prepared keeps ⟨rfl, rfl⟩
      · exact .lost prepared (by rw [opening]) keeps ⟨rfl, by simp [RunState.begin]⟩
      · exact blockEnd_runPass prepared keeps ⟨rfl, by simp [RunState.begin]⟩

/-- A block that cannot be prepared interrupts every run in the same way. -/
theorem runBlock_of_unprepared (destination : Destination σ η) (shared : Bool) {fault : UseFault}
    (prepared : generator.prepare block state.reserved = .error fault) :
    ((generator.runBlock destination shared block).outcome state).1 = .error (.setting fault) ∧
      ((generator.runBlock destination shared block).outcome state).2.destination =
        state.destination ∧
      state.Adds ((generator.runBlock destination shared block).outcome state).2 state.reserved
        [] := by
  have ended := blockEnd_runBlock generator destination shared block state
  generalize ((generator.runBlock destination shared block).outcome state).1 = result at ended ⊢
  generalize ((generator.runBlock destination shared block).outcome state).2 = after at ended ⊢
  cases ended with
  | unprepared again same adds =>
    rw [prepared] at again
    cases again
    exact ⟨rfl, same, adds⟩
  | skipped again | lost again | failed _ again | generated again =>
    rw [prepared] at again
    cases again

/-- A block that is not allowed is passed over in every run. -/
theorem runBlock_of_skipped (destination : Destination σ η) (shared : Bool)
    (prepared : generator.prepare block state.reserved = .ok none) :
    ((generator.runBlock destination shared block).outcome state).1 = .ok () ∧
      ((generator.runBlock destination shared block).outcome state).2.destination =
        state.destination ∧
      state.Adds ((generator.runBlock destination shared block).outcome state).2 state.reserved
        [⟨block.name, .skipped generator.settings.processFilter.text⟩] := by
  have ended := blockEnd_runBlock generator destination shared block state
  generalize ((generator.runBlock destination shared block).outcome state).1 = result at ended ⊢
  generalize ((generator.runBlock destination shared block).outcome state).2 = after at ended ⊢
  cases ended with
  | skipped _ same adds => exact ⟨rfl, same, adds⟩
  | unprepared again | lost again | failed _ again | generated again =>
    rw [prepared] at again
    cases again

/-! ### All blocks -/

/-- What holds of a state and is kept by each of the blocks holds behind them, whether or not the
run comes to its end. -/
theorem holds_blocks (Holds : RunState σ → Prop) {blocks : List Block}
    (step : ∀ block ∈ blocks, ∀ {before : RunState σ}, Holds before →
      Holds ((generator.runBlock destination shared block).outcome before).2)
    {before : RunState σ} (start : Holds before) :
    Holds ((blocks.forM (generator.runBlock destination shared)).outcome before).2 := by
  induction blocks generalizing before with
  | nil => exact start
  | cons block rest ih =>
    obtain ⟨own, others⟩ := List.forall_mem_cons.mp step
    have next := own start
    rw [Running.outcome_forM_cons]
    rcases ran : (generator.runBlock destination shared block).outcome before with ⟨_ | _, middle⟩
    all_goals rw [ran] at next
    · exact next
    · exact ih others next

/-- What holds of a state and the blocks that are done, and is kept by each block that does not end
the run, holds at the end of a run through all blocks. -/
theorem between_blocks (Between : List Block → RunState σ → Prop)
    (step : ∀ {done : List Block} {block : Block} {before after : RunState σ},
      Between done before →
      (generator.runBlock destination shared block).outcome before = (.ok (), after) →
      Between (done ++ [block]) after)
    {done blocks : List Block} {before after : RunState σ} (start : Between done before)
    (ran : (blocks.forM (generator.runBlock destination shared)).outcome before =
      (.ok (), after)) : Between (done ++ blocks) after := by
  -- the blocks that are done already grow by the first one
  induction blocks generalizing done before with
  | nil =>
    cases ran
    rwa [List.append_nil]
  | cons block rest ih =>
    rw [Running.outcome_forM_cons] at ran
    rcases own : (generator.runBlock destination shared block).outcome before with
      ⟨cause | _, middle⟩
    all_goals rw [own] at ran
    · cases ran
    · rw [List.append_cons]
      exact ih (step start own) ran

/-- A block adds one outcome, or none if it ends the run. -/
theorem BlockEnd.outcomes {before after : RunState σ} {result : Except Interruption Unit}
    (ended : generator.BlockEnd destination shared block before result after) :
    (∃ outcome, result = .ok () ∧ after.outcomes = before.outcomes ++ [outcome]) ∨
      (∃ cause, result = .error cause ∧ after.outcomes = before.outcomes) := by
  cases ended with
  | unprepared _ _ adds | lost _ _ _ adds => exact .inr ⟨_, rfl, by simpa using adds.outcomes⟩
  | skipped _ _ adds | failed _ _ _ adds | generated _ _ _ _ adds =>
    exact .inl ⟨_, rfl, adds.outcomes⟩

/-- Outcomes that are there stay. -/
theorem exists_outcomes (generator : Generator) (destination : Destination σ η) (shared : Bool)
    (blocks : List Block) (before : RunState σ) :
    ∃ outcomes,
      ((blocks.forM (generator.runBlock destination shared)).outcome before).2.outcomes =
        before.outcomes ++ outcomes := by
  induction blocks generalizing before with
  | nil => exact ⟨[], (List.append_nil _).symm⟩
  | cons block rest ih =>
    have ended := (blockEnd_runBlock generator destination shared block before).outcomes
    rw [Running.outcome_forM_cons]
    rcases ran : (generator.runBlock destination shared block).outcome before with ⟨result, after⟩
    rw [ran] at ended
    rcases ended with ⟨outcome, rfl, one⟩ | ⟨cause, rfl, none⟩
    · obtain ⟨more, all⟩ := ih after
      refine ⟨outcome :: more, ?_⟩
      rw [all, one, List.append_assoc]
      rfl
    · exact ⟨[], by simpa using none⟩

/-- The report that a state of a run comes to. -/
def reportOf (schema : Api.Schema) (state : RunState σ) : RunReport :=
  { source := schema.source, outcomes := state.outcomes, warnings := state.warnings }

/-- Takes the names of all blocks, goes through the blocks in some way, and reports. -/
def runThrough (generator : Generator) (schema : Api.Schema) (blocks : Running σ Unit) :
    Running σ RunReport := do
  let symbols ← Running.setting (generator.blockSymbols schema)
  modify fun state => { state with reserved := symbols }
  blocks
  let state ← get
  Running.note .info (reportOf schema state).summary
  return reportOf schema state

theorem run_eq (schema : Api.Schema) :
    generator.run destination shared schema =
      generator.runThrough schema (schema.blocks.forM (generator.runBlock destination shared)) :=
  rfl

theorem outcome_runThrough (schema : Api.Schema) (blocks : Running σ Unit) (state : RunState σ) :
    (generator.runThrough schema blocks).outcome state =
      match generator.blockSymbols schema with
      | .error fault => (.error (.setting fault), state)
      | .ok symbols =>
        match blocks.outcome { state with reserved := symbols } with
        | (.error cause, after) => (.error cause, after)
        | (.ok _, after) =>
          (.ok (reportOf schema after),
            { after with log := after.log ++ [⟨.info, (reportOf schema after).summary⟩] }) := by
  unfold runThrough
  rw [Running.outcome_bind, Running.outcome_setting]
  cases generator.blockSymbols schema with
  | error fault => rfl
  | ok symbols =>
    simp only [mapError_ok, Running.outcome_bind, Running.outcome_modify]
    rcases blocks.outcome { state with reserved := symbols } with ⟨_ | _, after⟩ <;> rfl

/-- A review and the run behind it. -/
theorem reviewAndRun_eq (generator : Generator) (destination : Destination σ η) (shared : Bool)
    (schema : Api.Schema) (start : σ) :
    generator.reviewAndRun destination shared schema start =
      match generator.review schema with
      | .error fault => (.error (.setting fault), start, [])
      | .ok remarks =>
        match (generator.run destination shared schema).outcome { destination := start } with
        | (.error cause, after) => (.error cause, after.destination, after.log)
        | (.ok report, after) =>
          (.ok (remarks.map Remark.message ++ report.warnings, report), after.destination,
            after.log) := by
  unfold reviewAndRun
  cases generator.review schema with
  | error fault => rfl
  | ok remarks =>
    rcases ran : (generator.run destination shared schema).outcome { destination := start } with
      ⟨cause | report, after⟩
    all_goals
      have whole : (generator.run destination shared schema).run.run { destination := start } = _ :=
        ran
      simp only [whole]
      rfl

end Generator

end HostBindings
