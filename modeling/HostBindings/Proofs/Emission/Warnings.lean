import HostBindings.Proofs.Emission.Drain

/-!
# The warnings of a pass

Two things make a pass warn: the name of an event that is let through though it is suspicious, and
an enumeration whose literals do not fit its tag. Nothing else does. So the warnings of a pass are
those on its events, in order, and then those on the declarations that waited, in order.

## Main definitions

* `Emit.Quiet` — actions that neither warn nor write what waits
* `Generator.eventRemarks`, `Generator.pendingRemarks` — what a pass warns of

## Main results

* `Generator.warnings_pendingDeclaration` — one declaration that waits
* `Generator.warnings_emission` — the warnings of a whole pass
-/

namespace HostBindings

open Api (Block)

variable {α β : Type} {p q : Pass}

/-! ### Quiet actions -/

namespace Emit

/-- An action neither warns nor writes a declaration that waits, whether it fails or not. -/
def Quiet (action : Emit α) : Prop :=
  ∀ p, (action.outcome p).2.warnings = p.warnings ∧ (action.outcome p).2.declared = p.declared

theorem Quiet.of_runs {action : Emit α} {a : α} (quiet : Quiet action) (run : Runs action p a q) :
    q.warnings = p.warnings ∧ q.declared = p.declared := by
  have kept := quiet p
  rw [run] at kept
  exact kept

theorem quiet_pure (a : α) : Quiet (pure a) := fun _ => ⟨rfl, rfl⟩

theorem quiet_throw (fault : PassFault) : Quiet (throw fault : Emit α) := fun _ => ⟨rfl, rfl⟩

theorem quiet_bind {action : Emit α} {next : α → Emit β} (first : Quiet action)
    (others : ∀ a, Quiet (next a)) : Quiet (action >>= next) := by
  intro p
  have one := first p
  rw [outcome_bind]
  rcases ran : action.outcome p with ⟨fault | a, m⟩
  · rw [ran] at one
    exact one
  · rw [ran] at one
    have more := others a m
    exact ⟨more.1.trans one.1, more.2.trans one.2⟩

theorem quiet_get {next : Pass → Emit α} (others : ∀ p, Quiet (next p)) : Quiet (get >>= next) :=
  fun p => others p p

theorem quiet_modify {change : Pass → Pass}
    (keeps : ∀ p, (change p).warnings = p.warnings ∧ (change p).declared = p.declared) :
    Quiet (modify change) :=
  keeps

theorem quiet_mapM {action : α → Emit β} {items : List α} (each : ∀ item, Quiet (action item)) :
    Quiet (items.mapM action) := by
  induction items with
  | nil => exact quiet_pure []
  | cons item rest ih =>
    rw [List.mapM_cons]
    exact quiet_bind (each item) fun _ => quiet_bind ih fun _ => quiet_pure _

theorem quiet_forM {action : α → Emit PUnit} {items : List α} (each : ∀ item, Quiet (action item)) :
    Quiet (items.forM action) := by
  induction items with
  | nil => exact quiet_pure PUnit.unit
  | cons item rest ih => exact quiet_bind (each item) fun _ => ih

theorem quiet_setting (result : Except UseFault α) : Quiet (setting result) := by
  cases result with
  | error fault => exact quiet_throw _
  | ok value => exact quiet_pure value

theorem quiet_note (level : Level) (message : String) : Quiet (note level message) :=
  quiet_modify fun _ => ⟨rfl, rfl⟩

theorem quiet_claim (candidate : String) : Quiet (claim candidate) := by
  intro p
  simp only [claim, outcome_bind, outcome_get, outcome_set]
  split <;> exact ⟨rfl, rfl⟩

theorem quiet_scopeFor (generator : Generator) (parent : Option Entity) :
    Quiet (scopeFor generator parent) :=
  quiet_get fun _ => quiet_setting _

theorem quiet_register (generator : Generator) (kind : PendingKind) (node : PropertyNode)
    (parent : Option Entity) : Quiet (register generator kind node parent) := by
  refine quiet_bind (quiet_setting _) fun symbol => quiet_get fun p => ?_
  dsimp only
  split
  · exact quiet_bind (quiet_note _ _) fun _ => quiet_pure _
  · refine quiet_bind (quiet_scopeFor _ _) fun lead => quiet_bind (quiet_claim _) fun name => ?_
    exact quiet_bind (quiet_modify fun _ => ⟨rfl, rfl⟩) fun _ => quiet_pure _

theorem quiet_requireImport (path : Json) : Quiet (requireImport path) := by
  unfold requireImport
  split
  · exact quiet_bind (quiet_setting _) fun _ => quiet_modify fun _ => ⟨rfl, rfl⟩
  · exact quiet_pure _

theorem quiet_write (text : String) : Quiet (write text) := by
  intro p
  simp only [write, outcome_bind, outcome_get]
  split <;> exact ⟨rfl, rfl⟩

theorem quiet_writeTrimmed (text : String) : Quiet (writeTrimmed text) := by
  have count : Quiet (modify fun pass : Pass => { pass with sections := pass.sections + 1 }) :=
    quiet_modify fun _ => ⟨rfl, rfl⟩
  refine quiet_get fun p => ?_
  split
  · exact quiet_bind (quiet_write _) fun _ => quiet_bind (quiet_write _) fun _ => count
  · exact quiet_bind (quiet_write _) fun _ => count

theorem quiet_declare (generator : Generator) (declaration : Code.Declaration) :
    Quiet (declare generator declaration) := by
  refine quiet_bind ?_ fun text => ?_
  · unfold render
    split
    · exact quiet_pure _
    · exact quiet_throw _
  · split
    · exact quiet_bind (quiet_writeTrimmed _) fun _ => quiet_modify fun _ => ⟨rfl, rfl⟩
    · exact quiet_pure _

end Emit

namespace Generator

open Emit

variable (generator : Generator)

/-! ### The parts of a declaration -/

theorem quiet_useType (type : BindingType) : Quiet (useType type) := quiet_forM quiet_requireImport

theorem quiet_typeNameOf (node : PropertyNode) (parent : Option Entity) :
    Quiet (generator.typeNameOf node parent) := by
  unfold typeNameOf
  split
  · exact quiet_bind (quiet_register _ _ _ _) fun _ => quiet_pure _
  · split
    · refine quiet_bind (quiet_setting _) fun _ => ?_
      exact quiet_bind (quiet_useType _) fun _ => quiet_pure _
    · exact quiet_bind (quiet_register _ _ _ _) fun _ => quiet_pure _

theorem quiet_slotOf (node : PropertyNode) (parent : Option Entity) :
    Quiet (generator.slotOf node parent) :=
  quiet_bind (quiet_setting _) fun _ =>
    quiet_bind (quiet_typeNameOf generator node parent) fun _ => quiet_pure _

theorem quiet_signatureOf (owner : Entity) (parameters : List PropertyNode)
    (result? : Option PropertyNode) : Quiet (generator.signatureOf owner parameters result?) := by
  refine quiet_bind (quiet_mapM fun _ => quiet_slotOf generator _ _) fun _ => ?_
  cases result? with
  | none => exact quiet_pure _
  | some node => exact quiet_bind (quiet_slotOf generator _ _) fun _ => quiet_pure _

theorem quiet_fieldOf (parent : Entity) (node : PropertyNode) :
    Quiet (generator.fieldOf parent node) :=
  quiet_bind (quiet_slotOf generator _ _) fun _ => quiet_pure _

theorem quiet_methodFieldOf (parent : Entity) (node : MethodNode) :
    Quiet (generator.methodFieldOf parent node) := by
  refine quiet_bind ?_ fun _ => quiet_pure _
  exact quiet_bind (quiet_signatureOf generator _ _ _) fun _ =>
    quiet_bind (quiet_setting _) fun _ => quiet_pure _

theorem quiet_hostHandle : Quiet generator.hostHandle :=
  quiet_bind (quiet_setting _) fun _ => quiet_bind (quiet_useType _) fun _ => quiet_pure _

theorem quiet_eventConstant (comments : List String) (name : String) :
    Quiet (generator.eventConstant comments name) :=
  quiet_bind (quiet_setting _) fun _ => quiet_bind (quiet_setting _) fun _ =>
    quiet_get fun _ => quiet_bind (quiet_claim _) fun _ => quiet_pure _

theorem quiet_structureOf (block : Block) (properties : List PropertyNode)
    (methods : List MethodNode) : Quiet (generator.structureOf block properties methods) := by
  refine quiet_bind (quiet_hostHandle generator) fun _ => ?_
  refine quiet_bind (quiet_mapM (quiet_fieldOf generator _)) fun _ => ?_
  exact quiet_bind (quiet_mapM (quiet_methodFieldOf generator _)) fun _ =>
    quiet_get fun _ => quiet_pure _

theorem quiet_noteOmitted (block : Block) : Quiet (noteOmitted block) := by
  unfold noteOmitted
  split
  · exact quiet_note _ _
  · exact quiet_pure _

theorem quiet_memberOf (name : String) (quoted : Bool) (value : Api.PossibleValue) :
    Quiet (generator.memberOf name quoted value) :=
  quiet_bind (quiet_setting _) fun _ => quiet_bind (quiet_claim _) fun _ => quiet_pure _

theorem quiet_functionOf (pending : Pending) : Quiet (generator.functionOf pending) :=
  quiet_bind (quiet_signatureOf generator _ _ _) fun _ => quiet_pure _

theorem quiet_compositeOf (pending : Pending) : Quiet (generator.compositeOf pending) :=
  quiet_bind (quiet_hostHandle generator) fun _ =>
    quiet_bind (quiet_mapM (quiet_fieldOf generator _)) fun _ => quiet_pure _

/-! ### What warns -/

variable {generator : Generator}

/-- A warning is added behind the others. -/
theorem warnings_warn {message : String} {u : PUnit} (run : Runs (warn message) p u q) :
    q.warnings = p.warnings ++ [message] ∧ q.declared = p.declared := by
  simp only [warn, note, runs_bind, runs_get, runs_modify] at run
  obtain ⟨_, _, ⟨rfl, rfl⟩, _, _, rfl, rfl⟩ := run
  exact ⟨rfl, rfl⟩

/-- What a pass warns of in events: every suspicious name. -/
def eventRemarks (events : List Api.Event) : List String :=
  (events.filter fun event => !Literal.isPlainEventName event.info.name).map fun event =>
    suspiciousEventRemark event.info.name

theorem warnings_checkedConstant {event : Api.Event} {constant : Code.Constant}
    (run : Runs (generator.checkedConstant event) p constant q) :
    q.warnings = p.warnings ++ eventRemarks [event] ∧ q.declared = p.declared := by
  obtain ⟨_, m, checked, run⟩ := runs_bind.mp run
  obtain ⟨warnings, declared⟩ := (quiet_eventConstant generator _ _).of_runs run
  rw [warnings, declared]
  unfold checkEventName at checked
  split at checked
  next plain =>
    obtain ⟨-, rfl⟩ := runs_pure.mp checked
    simp [eventRemarks, plain]
  next suspicious =>
    split at checked
    · exact absurd checked runs_throw
    · simpa [eventRemarks, suspicious] using warnings_warn checked

theorem warnings_events {events : List Api.Event} {constants : List Code.Constant}
    (run : Runs (events.mapM generator.checkedConstant) p constants q) :
    q.warnings = p.warnings ++ eventRemarks events ∧ q.declared = p.declared := by
  induction events generalizing p constants with
  | nil =>
    obtain ⟨rfl, rfl⟩ := runs_pure.mp (by simpa using run)
    simp [eventRemarks]
  | cons event rest ih =>
    obtain ⟨_, m, others, first, last, rfl⟩ := runs_mapM_cons.mp run
    obtain ⟨one, same⟩ := warnings_checkedConstant first
    obtain ⟨more, kept⟩ := ih last
    refine ⟨?_, kept.trans same⟩
    rw [more, one, List.append_assoc]
    simp only [eventRemarks, ← List.map_append, ← List.filter_append, List.singleton_append]

theorem warnings_declareBlock {block : Block} {u : PUnit}
    (run : Runs (generator.declareBlock block) p u q) :
    q.warnings = p.warnings ++ eventRemarks (blockEvents block) ∧ q.declared = p.declared := by
  simp only [declareBlock, declareMembers, runs_bind] at run
  obtain ⟨_, m, noted, _, n, events, _, k, making, writing⟩ := run
  have before := (quiet_noteOmitted block).of_runs noted
  have making' := (quiet_structureOf generator _ _ _).of_runs making
  have writing' := (quiet_declare generator _).of_runs writing
  rw [writing'.1, writing'.2, making'.1, making'.2, ← before.1, ← before.2]
  unfold declareEvents at events
  split at events
  · simp only [eventsDeclaration, runs_bind, runs_get, runs_pure] at events
    obtain ⟨_, _, ⟨_, _, mapped, _, _, ⟨rfl, rfl⟩, rfl, rfl⟩, written⟩ := events
    obtain ⟨warnings, declared⟩ := (quiet_declare generator _).of_runs written
    rw [warnings, declared]
    exact warnings_events mapped
  next none =>
    obtain ⟨-, rfl⟩ := runs_pure.mp events
    have empty : blockEvents block = [] := by simpa using none
    simp [empty, eventRemarks]

/-- What a pass warns of in a declaration that waits: literals that do not fit the tag of an
enumeration. -/
def pendingRemarks (generator : Generator) (pending : Pending) : List String :=
  let property := pending.node.property
  match pending.kind, generator.types.basicType property.tag with
  | .constants, .ok type =>
    match literalType? generator.types type.name (property.possibleValues.map (·.literal)) with
    | some false =>
      [s!"values of {pending.name} do not fit {type.name.text}, using " ++
        generator.types.stringType.text]
    | _ => []
  | _, _ => []

theorem warnings_enumBaseType {pending : Pending} {base : Json}
    (constants : pending.kind = .constants)
    (run : Runs (generator.enumBaseType pending) p base q) :
    q.warnings = p.warnings ++ generator.pendingRemarks pending ∧ q.declared = p.declared := by
  simp only [enumBaseType, runs_bind, runs_setting] at run
  obtain ⟨type, _, ⟨found, rfl⟩, run⟩ := run
  simp only [pendingRemarks, constants, found]
  split at run
  next unknown =>
    obtain ⟨rfl, rfl⟩ := runs_pure.mp run
    simp [unknown]
  next fits =>
    obtain ⟨rfl, rfl⟩ := runs_pure.mp run
    simp [fits]
  next unfit =>
    simp only [runs_bind, runs_pure] at run
    obtain ⟨_, _, warned, rfl, rfl⟩ := run
    rw [unfit]
    exact warnings_warn warned

/-- Making a declaration that waits warns of that declaration alone. -/
theorem warnings_pendingDeclaration {pending : Pending} {declaration : Code.Declaration}
    (run : Runs (generator.pendingDeclaration pending) p declaration q) :
    q.warnings = p.warnings ++ generator.pendingRemarks pending ∧ q.declared = p.declared := by
  have none (composite : pending.kind = .composite) : generator.pendingRemarks pending = [] := by
    simp [pendingRemarks, composite]
  unfold pendingDeclaration at run
  split at run
  next constants =>
    simp only [enumerationOf, runs_bind, runs_pure] at run
    obtain ⟨base, _, based, members, _, mapped, rfl, rfl⟩ := run
    obtain ⟨warnings, declared⟩ := (quiet_mapM (quiet_memberOf generator _ _)).of_runs mapped
    rw [warnings, declared]
    exact warnings_enumBaseType constants based
  next composite _ =>
    rw [none composite, List.append_nil]
    exact (quiet_functionOf generator _).of_runs run
  next => exact absurd run runs_throw
  next composite _ _ =>
    rw [none composite, List.append_nil]
    exact (quiet_compositeOf generator _).of_runs run

/-! ### All warnings -/

theorem warnings_declarePending {pending : Pending} {u : PUnit}
    (run : Runs (generator.declarePending pending) p u q) :
    q.warnings = p.warnings ++ generator.pendingRemarks pending ∧ q.declared = p.declared := by
  obtain ⟨declaration, m, making, writing⟩ := runs_bind.mp run
  obtain ⟨warnings, declared⟩ := (quiet_declare generator _).of_runs writing
  rw [warnings, declared]
  exact warnings_pendingDeclaration making

/-- What waits is warned of as it is declared. -/
theorem warnings_drainUpTo {limit count : Nat} (run : Runs (generator.drainUpTo limit) p count q) :
    ∃ done, q.declared = p.declared ++ done ∧
      q.warnings = p.warnings ++ done.flatMap generator.pendingRemarks := by
  induction limit generalizing p count with
  | zero =>
    obtain ⟨rfl, rfl⟩ := runs_pure.mp run
    exact ⟨[], by simp, by simp⟩
  | succ limit ih =>
    rcases drainUpTo_cases run with
      ⟨-, rfl, rfl⟩ | ⟨pending, rest, m, count, -, declaring, drained, rfl⟩
    · exact ⟨[], by simp, by simp⟩
    · obtain ⟨warnings, declared⟩ := warnings_declarePending declaring
      obtain ⟨done, others, more⟩ := ih drained
      refine ⟨pending :: done, ?_, ?_⟩
      · rw [others]
        simp [declared]
      · rw [more]
        simp [warnings]

/-- The warnings of a pass that succeeds: on the suspicious names of its events, and then on the
declarations that waited. -/
theorem warnings_emission {block : Block} {reserved : List String} {start pass : Pass} {count : Nat}
    (started : Pass.start generator block reserved = .ok start)
    (run : Runs (generator.emission block) start count pass) :
    pass.warnings =
      eventRemarks (blockEvents block) ++ pass.declared.flatMap generator.pendingRemarks := by
  obtain ⟨symbol, stem, -, -, rfl⟩ := start_eq_ok.mp started
  simp only [emission, drain, runs_bind, runs_get] at run
  obtain ⟨_, m, declaring, _, _, ⟨rfl, rfl⟩, drained⟩ := run
  obtain ⟨warnings, declared⟩ := warnings_declareBlock declaring
  obtain ⟨done, others, more⟩ := warnings_drainUpTo drained
  rw [more, others, warnings, declared]
  simp

end Generator

end HostBindings
