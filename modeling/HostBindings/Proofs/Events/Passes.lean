import HostBindings.Proofs.Emission.Faults
import HostBindings.Proofs.Emission.Warnings

/-!
# Suspicious event names in a pass

The mode of a generator decides what becomes of a suspicious event name, and nothing else. Where a
block has none, its pass is the same in both modes. Where it has some, a lenient pass warns of each,
and a strict pass fails at the first.

## Main definitions

* `Generator.withMode` — a generator in another mode
* `Generator.Supplies` — settings that serve every name and every type, whatever the mode
* `Generator.suspect?` — the first suspicious event name of a block
* `Pass.Keeps` — states of a pass between which nothing was written

## Main results

* `Generator.emission_withMode` — a pass without suspicious names
* `Generator.Supplies.outcome_emission_strict` — a strict pass with one
* `Generator.Supplies.exists_runs_of_lenient` — a lenient pass
-/

namespace HostBindings

open Api (Block)

variable {α β : Type} {p q : Pass}

namespace Emit

theorem outcome_bind_of_runs {action : Emit α} {next : α → Emit β} {a : α}
    (run : Runs action p a q) : (action >>= next).outcome p = (next a).outcome q := by
  have ran : action.outcome p = (.ok a, q) := run
  rw [outcome_bind, ran]

theorem outcome_bind_of_error {action : Emit α} {next : α → Emit β} {fault : PassFault}
    (failed : action.outcome p = (.error fault, q)) :
    (action >>= next).outcome p = (.error fault, q) := by
  rw [outcome_bind, failed]

end Emit

/-- Between two states of a pass nothing was written and nothing was warned of. -/
structure Pass.Keeps (before after : Pass) : Prop where
  /-- The text is the same. -/
  sink : after.sink = before.sink
  /-- So is the number of sections. -/
  sections : after.sections = before.sections
  /-- So are the warnings. -/
  warnings : after.warnings = before.warnings

theorem Pass.Keeps.trans {r : Pass} (first : p.Keeps q) (second : q.Keeps r) : p.Keeps r :=
  ⟨second.sink.trans first.sink, second.sections.trans first.sections,
    second.warnings.trans first.warnings⟩

/-- A name is always claimed. -/
theorem Emit.exists_runs_claim (candidate : String) (p : Pass) :
    ∃ name q, Runs (claim candidate) p name q ∧ p.Keeps q := by
  simp only [Runs, claim, outcome_bind, outcome_get, outcome_set]
  split
  · exact ⟨_, _, rfl, rfl, rfl, rfl⟩
  · exact ⟨_, _, rfl, rfl, rfl, rfl⟩

namespace Generator

open Emit (Runs)

/-! ### Modes -/

/-- A generator in a mode. -/
def withMode (generator : Generator) (mode : Json) : Generator :=
  { generator with settings := { generator.settings with eventLiteralMode := mode } }

/-- An event with a suspicious name. -/
def isSuspicious (event : Api.Event) : Bool := !Literal.isPlainEventName event.info.name

/-- The first suspicious event name of a block. -/
def suspect? (block : Block) : Option String :=
  ((blockEvents block).find? isSuspicious).map (·.info.name)

theorem plain_of_suspect? {block : Block} (none : suspect? block = none) :
    ∀ event ∈ blockEvents block, Literal.isPlainEventName event.info.name = true := by
  intro event member
  simpa [isSuspicious] using List.find?_eq_none.mp (Option.map_eq_none_iff.mp none) event member

variable {generator : Generator} (mode : Json)

theorem checkedConstant_withMode {event : Api.Event}
    (plain : Literal.isPlainEventName event.info.name = true) :
    (generator.withMode mode).checkedConstant event = generator.checkedConstant event := by
  simp only [checkedConstant, checkEventName, plain, if_true]
  rfl

theorem mapM_checkedConstant_withMode {events : List Api.Event}
    (plain : ∀ event ∈ events, Literal.isPlainEventName event.info.name = true) :
    events.mapM (generator.withMode mode).checkedConstant =
      events.mapM generator.checkedConstant := by
  induction events with
  | nil => rfl
  | cons event rest ih =>
    rw [List.mapM_cons, List.mapM_cons,
      checkedConstant_withMode mode (plain event List.mem_cons_self),
      ih fun other member => plain other (List.mem_cons_of_mem _ member)]

theorem drainUpTo_withMode (limit : Nat) :
    (generator.withMode mode).drainUpTo limit = generator.drainUpTo limit := by
  induction limit with
  | zero => rfl
  | succ limit ih =>
    have one (pending : Pending) :
        (generator.withMode mode).declarePending pending = generator.declarePending pending := rfl
    simp only [drainUpTo, ih, one]

/-- Where all names are plain, the mode of a pass does not matter. -/
theorem emission_withMode {block : Block} (none : suspect? block = none) :
    (generator.withMode mode).emission block = generator.emission block := by
  have events : (generator.withMode mode).declareEvents (blockEvents block) =
      generator.declareEvents (blockEvents block) := by
    simp only [declareEvents, eventsDeclaration,
      mapM_checkedConstant_withMode mode (plain_of_suspect? none)]
    rfl
  have structures (properties : List PropertyNode) (methods : List MethodNode) :
      (generator.withMode mode).structureOf block properties methods =
        generator.structureOf block properties methods := rfl
  have declare (declaration : Code.Declaration) :
      Emit.declare (generator.withMode mode) declaration = Emit.declare generator declaration := rfl
  simp only [emission, declareBlock, declareMembers, drain, drainUpTo_withMode, events, structures,
    declare]

/-! ### Settings for all names and types -/

/-- Settings that serve every name and every type, in whichever mode. -/
structure Supplies (generator : Generator) : Prop where
  /-- No name, type, handle or import is refused. -/
  settings : ∀ fault, ¬ generator.Refuses fault
  /-- Every entity has a stem. -/
  stem : ∀ info, ∃ stem, generator.stem info = .ok stem
  /-- The templates are those of the library. -/
  builtin : generator.templates = .builtin

theorem Supplies.withMode (supplies : generator.Supplies) : (generator.withMode mode).Supplies where
  settings fault refused := by
    refine supplies.settings fault ?_
    cases refused with
    | symbol missing => exact .symbol missing
    | base missing => exact .base missing
    | type missing => exact .type missing
    | handle missing => exact .handle missing
    | host missing => exact .host missing
    | lead missing => exact .lead missing
  stem := supplies.stem
  builtin := supplies.builtin

namespace Supplies

variable (supplies : generator.Supplies)

include supplies

/-- In a lenient mode they serve everything. -/
theorem serves (lenient : generator.settings.strictEvents = false) : generator.Serves :=
  ⟨supplies.settings, supplies.stem, lenient, supplies.builtin⟩

theorem serves_lenient : (generator.withMode (.string "lenient")).Serves :=
  (supplies.withMode _).serves rfl

theorem exists_start (block : Block) (reserved : List String) :
    ∃ start, Pass.start generator block reserved = .ok start :=
  supplies.serves_lenient.exists_start block reserved

/-! ### Passes -/

/-- A lenient pass succeeds. -/
theorem exists_runs_of_lenient (lenient : generator.settings.strictEvents = false) {block : Block}
    {reserved : List String} {start : Pass}
    (started : Pass.start generator block reserved = .ok start) :
    ∃ nested pass, Runs (generator.emission block) start nested pass :=
  (supplies.serves lenient).exists_runs started

/-- In whichever mode, a pass without suspicious names succeeds. -/
theorem exists_runs_of_plain {block : Block} (none : suspect? block = none) {reserved : List String}
    {start : Pass} (started : Pass.start generator block reserved = .ok start) :
    ∃ nested pass, Runs (generator.emission block) start nested pass := by
  rw [← emission_withMode (.string "lenient") none]
  exact supplies.serves_lenient.exists_runs started

/-- An event gets its constant. -/
theorem exists_runs_eventConstant (comments : List String) (name : String) (p : Pass) :
    ∃ constant q, Runs (generator.eventConstant comments name) p constant q := by
  cases led : generator.settings.eventLeadText with
  | error fault => exact absurd (.lead led) (supplies.settings fault)
  | ok lead =>
    cases spelt : generator.symbol name with
    | error fault => exact absurd (.symbol spelt) (supplies.settings fault)
    | ok symbol =>
      obtain ⟨identifier, q, claimed, -⟩ :=
        Emit.exists_runs_claim (lead ++ p.scope.stem ++ symbol) p
      refine ⟨⟨comments, identifier, Text.quote name⟩, q, ?_⟩
      simp only [eventConstant, led, spelt, Emit.runs_bind, Emit.runs_setting, Emit.runs_get,
        Emit.runs_pure]
      exact ⟨lead, p, ⟨rfl, rfl⟩, symbol, p, ⟨rfl, rfl⟩, p, p, ⟨rfl, rfl⟩, identifier, q, claimed,
        rfl, rfl⟩

/-- In strict mode the first suspicious name of some events is refused. -/
theorem outcome_mapM_strict (strict : generator.settings.strictEvents = true)
    {events : List Api.Event} {event : Api.Event} (found : events.find? isSuspicious = some event)
    (p : Pass) :
    ∃ q, (events.mapM generator.checkedConstant).outcome p =
      (.error (.suspiciousEvent event.info.name), q) := by
  -- the names before the first suspicious one are plain, so they get their constants
  induction events generalizing p with
  | nil => cases found
  | cons first rest ih =>
    rw [List.mapM_cons]
    cases suspicious : isSuspicious first with
    | true =>
      rw [List.find?_cons, suspicious] at found
      cases found
      have plain : Literal.isPlainEventName event.info.name = false := by
        simpa [isSuspicious] using suspicious
      refine ⟨p, Emit.outcome_bind_of_error (Emit.outcome_bind_of_error ?_)⟩
      simp only [checkEventName, plain, strict, Bool.false_eq_true, if_false, if_true,
        Emit.outcome_throw]
    | false =>
      rw [List.find?_cons, suspicious] at found
      have plain : Literal.isPlainEventName first.info.name = true := by
        simpa [isSuspicious] using suspicious
      obtain ⟨constant, m, made⟩ :=
        supplies.exists_runs_eventConstant (generator.docLines first.info) first.info.name p
      have checked : Runs (generator.checkedConstant first) p constant m := by
        simp only [checkedConstant, checkEventName, plain, if_true]
        exact made
      obtain ⟨q, refused⟩ := ih found m
      rw [Emit.outcome_bind_of_runs checked]
      exact ⟨q, Emit.outcome_bind_of_error refused⟩

/-- In strict mode the first suspicious name of a block is refused. -/
theorem outcome_emission_strict (strict : generator.settings.strictEvents = true) {block : Block}
    {name : String} (found : suspect? block = some name) (start : Pass) :
    ∃ pass, (generator.emission block).outcome start = (.error (.suspiciousEvent name), pass) := by
  obtain ⟨event, first, rfl⟩ := Option.map_eq_some_iff.mp found
  obtain ⟨m, noted⟩ : ∃ m, Runs (noteOmitted block) start () m := by
    unfold noteOmitted
    split
    · exact ⟨_, rfl⟩
    · exact ⟨_, rfl⟩
  obtain ⟨pass, refused⟩ := supplies.outcome_mapM_strict strict first m
  have some : (!(blockEvents block).isEmpty) = true := by
    cases events : blockEvents block with
    | nil =>
      rw [events] at first
      cases first
    | cons => rfl
  refine ⟨pass, Emit.outcome_bind_of_error ?_⟩
  rw [declareBlock, Emit.outcome_bind_of_runs noted]
  refine Emit.outcome_bind_of_error ?_
  rw [declareEvents, if_pos some]
  exact Emit.outcome_bind_of_error (Emit.outcome_bind_of_error refused)

end Supplies

end Generator

end HostBindings
