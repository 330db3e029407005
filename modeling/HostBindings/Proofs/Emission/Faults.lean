import HostBindings.Proofs.Emission.Drain

/-!
# The faults of a pass

A pass only fails by its settings: a name, a type, the handle or the import of the host package
cannot be had, or an event name is refused in strict mode. Nothing else that is written down as a
fault ever arises with the templates of the library: the sink stays open until the pass is done, no
template lacks a variable, and a property of basic kind is queued as an enumeration or not at all.
So a pass succeeds whatever it is given, if the settings serve every name and every type.

## Main definitions

* `Pass.IsSound` — the sink is open, and every queued composite is one
* `Emit.FailsOnly` — an action that keeps a pass sound, but for certain faults
* `Generator.Refuses`, `Generator.MayFail` — the faults that settings can have
* `Generator.Serves` — settings that serve every name and every type

## Main results

* `Generator.failsOnly_emission` — a pass has no other faults
* `Generator.Serves.exists_runs` — a pass that succeeds
-/

namespace HostBindings

open Api (Block)

/-! ### Sound passes -/

/-- A state in which the pass of a block of a certain name can go on: text can be written, and what
waits as a composite is of a kind that has a declaration of its own. -/
structure Pass.IsSound (pass : Pass) (name : String) : Prop where
  /-- The sink is open. -/
  isOpen : pass.sink.isOpen = true
  /-- The sink is that of the block. -/
  named : pass.sink.blockName = name
  /-- No basic property waits as a composite. -/
  composite : ∀ pending ∈ pass.scope.pending, pending.kind = .composite →
    pending.node.property.kind ≠ .basic

namespace Emit

variable {α β : Type} {name : String} {faults : PassFault → Prop}

/-- A sound pass stays sound under an action, unless that has one of certain faults. -/
def FailsOnly (name : String) (faults : PassFault → Prop) (action : Emit α) : Prop :=
  ∀ p : Pass, p.IsSound name →
    match action.outcome p with
    | (.ok _, q) => q.IsSound name
    | (.error fault, _) => faults fault

theorem failsOnly_pure (a : α) : FailsOnly name faults (pure a) := fun _ sound => sound

theorem failsOnly_throw {fault : PassFault} (allowed : faults fault) :
    FailsOnly name faults (throw fault : Emit α) :=
  fun _ _ => allowed

theorem failsOnly_bind {action : Emit α} {next : α → Emit β} (first : FailsOnly name faults action)
    (others : ∀ a, FailsOnly name faults (next a)) : FailsOnly name faults (action >>= next) := by
  intro p sound
  have one := first p sound
  rw [outcome_bind]
  rcases ran : action.outcome p with ⟨fault | a, m⟩
  · rw [ran] at one
    exact one
  · rw [ran] at one
    exact others a m one

/-- What is read is a sound pass. -/
theorem failsOnly_get {next : Pass → Emit α}
    (others : ∀ p, p.IsSound name → FailsOnly name faults (next p)) :
    FailsOnly name faults (get >>= next) := by
  intro p sound
  rw [outcome_bind, outcome_get]
  exact others p sound p sound

theorem failsOnly_set {p : Pass} (sound : p.IsSound name) : FailsOnly name faults (set p) :=
  fun _ _ => sound

theorem failsOnly_modify {change : Pass → Pass}
    (keeps : ∀ p, p.IsSound name → (change p).IsSound name) :
    FailsOnly name faults (modify change) :=
  keeps

theorem failsOnly_mapM {action : α → Emit β} {items : List α}
    (each : ∀ item ∈ items, FailsOnly name faults (action item)) :
    FailsOnly name faults (items.mapM action) := by
  induction items with
  | nil => exact failsOnly_pure []
  | cons item rest ih =>
    rw [List.mapM_cons]
    refine failsOnly_bind (each item List.mem_cons_self) fun first => ?_
    refine failsOnly_bind (ih fun other member => each other (List.mem_cons_of_mem _ member)) ?_
    exact fun others => failsOnly_pure _

theorem failsOnly_forM {action : α → Emit PUnit} {items : List α}
    (each : ∀ item ∈ items, FailsOnly name faults (action item)) :
    FailsOnly name faults (items.forM action) := by
  induction items with
  | nil => exact failsOnly_pure PUnit.unit
  | cons item rest ih =>
    refine failsOnly_bind (each item List.mem_cons_self) fun _ => ?_
    exact ih fun other member => each other (List.mem_cons_of_mem _ member)

theorem failsOnly_setting {result : Except UseFault α}
    (allowed : ∀ fault, result = .error fault → faults (.setting fault)) :
    FailsOnly name faults (setting result) := by
  cases result with
  | error fault => exact failsOnly_throw (allowed fault rfl)
  | ok value => exact failsOnly_pure value

/-! ### The actions of a pass -/

theorem failsOnly_note (level : Level) (message : String) :
    FailsOnly name faults (note level message) :=
  failsOnly_modify fun _ sound => ⟨sound.isOpen, sound.named, sound.composite⟩

theorem failsOnly_warn (message : String) : FailsOnly name faults (warn message) := by
  refine failsOnly_get fun p sound => ?_
  refine failsOnly_bind (failsOnly_note _ _) fun _ => ?_
  exact failsOnly_modify fun _ sound => ⟨sound.isOpen, sound.named, sound.composite⟩

theorem failsOnly_claim (candidate : String) : FailsOnly name faults (claim candidate) := by
  refine failsOnly_get fun p sound => ?_
  refine failsOnly_bind (failsOnly_set ⟨sound.isOpen, sound.named, sound.composite⟩) fun _ => ?_
  split
  · exact failsOnly_bind (failsOnly_note _ _) fun _ => failsOnly_pure _
  · exact failsOnly_pure _

/-- The sink of a sound pass takes every text. -/
theorem failsOnly_write (text : String) : FailsOnly name faults (write text) := by
  refine failsOnly_get fun p sound => ?_
  rw [Sink.write?, if_pos sound.isOpen]
  exact failsOnly_set ⟨sound.isOpen, sound.named, sound.composite⟩

theorem failsOnly_writeTrimmed (text : String) : FailsOnly name faults (writeTrimmed text) := by
  refine failsOnly_get fun p sound => ?_
  have count : FailsOnly name faults
      (modify fun pass : Pass => { pass with sections := pass.sections + 1 }) :=
    failsOnly_modify fun _ sound => ⟨sound.isOpen, sound.named, sound.composite⟩
  split
  · refine failsOnly_bind (failsOnly_write _) fun _ => ?_
    exact failsOnly_bind (failsOnly_write _) fun _ => count
  · exact failsOnly_bind (failsOnly_write _) fun _ => count

/-- Every declaration has a text that is not empty. -/
theorem failsOnly_declare {generator : Generator} (builtin : generator.templates = .builtin)
    (declaration : Code.Declaration) : FailsOnly name faults (declare generator declaration) := by
  simp only [declare, render, builtin, Template.render_builtin, pure_bind,
    declaration.sectionText?_printed]
  refine failsOnly_bind (failsOnly_writeTrimmed _) fun _ => ?_
  exact failsOnly_modify fun _ sound => ⟨sound.isOpen, sound.named, sound.composite⟩

end Emit

namespace Generator

open Emit

/-! ### Faults of settings -/

/-- The faults that the settings of a generator can have within a pass. -/
inductive Refuses (generator : Generator) : UseFault → Prop where
  /-- A name without a symbol. -/
  | symbol {name : String} {fault : UseFault} :
      generator.symbol name = .error fault → Refuses generator fault
  /-- An entity without a symbol. -/
  | base {info : Api.Info} {fault : UseFault} :
      generator.baseSymbol info = .error fault → Refuses generator fault
  /-- A tag without a type. -/
  | type {tag : Option String} {fault : UseFault} :
      generator.types.basicType tag = .error fault → Refuses generator fault
  /-- No handle for host objects. -/
  | handle {fault : UseFault} :
      generator.types.hostHandle = .error fault → Refuses generator fault
  /-- An import of the host package that is no value to be looked up. -/
  | host {fault : UseFault} :
      generator.types.hostImport.hashed = .error fault → Refuses generator fault
  /-- Nothing that the names of events could begin with. -/
  | lead {fault : UseFault} :
      generator.settings.eventLeadText = .error fault → Refuses generator fault

/-- The faults that a pass can have. -/
inductive MayFail (generator : Generator) : PassFault → Prop where
  /-- A setting that cannot be used. -/
  | setting {fault : UseFault} : generator.Refuses fault → MayFail generator (.setting fault)
  /-- An event name that strict mode refuses. -/
  | suspicious {name : String} : generator.settings.strictEvents = true →
      Literal.isPlainEventName name = false → MayFail generator (.suspiciousEvent name)

variable {generator : Generator} {name : String}

theorem failsOnly_symbol (text : String) :
    FailsOnly name generator.MayFail (Emit.setting (generator.symbol text)) :=
  failsOnly_setting fun _ failed => .setting (.symbol failed)

theorem failsOnly_baseSymbol (info : Api.Info) :
    FailsOnly name generator.MayFail (Emit.setting (generator.baseSymbol info)) :=
  failsOnly_setting fun _ failed => .setting (.base failed)

theorem failsOnly_scopeFor (parent : Option Entity) :
    FailsOnly name generator.MayFail (Emit.scopeFor generator parent) := by
  refine failsOnly_get fun p _ => failsOnly_setting fun fault failed => .setting ?_
  unfold Scope.scopeFor at failed
  -- only the symbol of an owner that has no name can be missing
  split at failed
  · cases failed
  · next owner =>
    split at failed
    · cases failed
    · split at failed
      · cases failed
      · cases found : generator.symbol owner.info.name with
        | error cause =>
          rw [found] at failed
          cases failed
          exact .symbol found
        | ok symbol =>
          rw [found] at failed
          cases failed

/-- Only what has a declaration of its own may be registered as a composite. -/
theorem failsOnly_register {kind : PendingKind} {node : PropertyNode} (parent : Option Entity)
    (composite : kind = .composite → node.property.kind ≠ .basic) :
    FailsOnly name generator.MayFail (Emit.register generator kind node parent) := by
  refine failsOnly_bind (failsOnly_symbol _) fun symbol => failsOnly_get fun p _ => ?_
  dsimp only
  split
  · exact failsOnly_bind (failsOnly_note _ _) fun _ => failsOnly_pure _
  · refine failsOnly_bind (failsOnly_scopeFor parent) fun lead => ?_
    refine failsOnly_bind (failsOnly_claim _) fun claimed => ?_
    refine failsOnly_bind (failsOnly_modify fun q sound => ⟨sound.isOpen, sound.named, ?_⟩) fun _ =>
      failsOnly_pure _
    intro pending member
    rcases List.mem_append.mp member with old | new
    · exact sound.composite pending old
    · rw [List.mem_singleton.mp new]
      exact composite

theorem failsOnly_useType {type : BindingType}
    (host : ∀ path ∈ type.imports, path = generator.types.hostImport) :
    FailsOnly name generator.MayFail (useType type) := by
  refine failsOnly_forM fun path member => ?_
  unfold Emit.requireImport
  split
  · refine failsOnly_bind (failsOnly_setting fun fault failed => ?_) fun _ => ?_
    · rw [host path member] at failed
      exact .setting (.host failed)
    · exact failsOnly_modify fun _ sound => ⟨sound.isOpen, sound.named, sound.composite⟩
  · exact failsOnly_pure _

/-! ### Fields, parameters and results -/

theorem failsOnly_basicType {tag : Option String} {next : BindingType → Emit α}
    (others : ∀ type, (∀ path ∈ type.imports, path = generator.types.hostImport) →
      FailsOnly name generator.MayFail (next type)) :
    FailsOnly name generator.MayFail (Emit.setting (generator.types.basicType tag) >>= next) := by
  cases found : generator.types.basicType tag with
  | error fault => exact failsOnly_throw (.setting (.type found))
  | ok type => exact others type (eq_hostImport_of_basicType found)

/-- An enumeration is queued as one; of the others, only those that are no basic ones are queued. -/
theorem failsOnly_typeNameOf (node : PropertyNode) (parent : Option Entity) :
    FailsOnly name generator.MayFail (generator.typeNameOf node parent) := by
  unfold typeNameOf
  split
  · exact failsOnly_bind (failsOnly_register parent (by simp)) fun _ => failsOnly_pure _
  · split
    · refine failsOnly_basicType fun type host => ?_
      exact failsOnly_bind (failsOnly_useType host) fun _ => failsOnly_pure _
    next composite =>
      refine failsOnly_bind (failsOnly_register parent fun _ => composite) fun _ => ?_
      exact failsOnly_pure _

theorem failsOnly_slotOf (node : PropertyNode) (parent : Option Entity) :
    FailsOnly name generator.MayFail (generator.slotOf node parent) := by
  refine failsOnly_bind (failsOnly_baseSymbol _) fun _ => ?_
  exact failsOnly_bind (failsOnly_typeNameOf node parent) fun _ => failsOnly_pure _

theorem failsOnly_signatureOf (owner : Entity) (parameters : List PropertyNode)
    (result? : Option PropertyNode) :
    FailsOnly name generator.MayFail (generator.signatureOf owner parameters result?) := by
  refine failsOnly_bind (failsOnly_mapM fun parameter _ => failsOnly_slotOf _ _) fun _ => ?_
  cases result? with
  | none => exact failsOnly_pure _
  | some node => exact failsOnly_bind (failsOnly_slotOf _ _) fun _ => failsOnly_pure _

theorem failsOnly_fieldOf (parent : Entity) (node : PropertyNode) :
    FailsOnly name generator.MayFail (generator.fieldOf parent node) :=
  failsOnly_bind (failsOnly_slotOf _ _) fun _ => failsOnly_pure _

theorem failsOnly_methodFieldOf (parent : Entity) (node : MethodNode) :
    FailsOnly name generator.MayFail (generator.methodFieldOf parent node) := by
  refine failsOnly_bind ?_ fun _ => failsOnly_pure _
  refine failsOnly_bind (failsOnly_signatureOf _ _ _) fun _ => ?_
  exact failsOnly_bind (failsOnly_baseSymbol _) fun _ => failsOnly_pure _

theorem failsOnly_hostHandle : FailsOnly name generator.MayFail generator.hostHandle := by
  unfold hostHandle
  cases found : generator.types.hostHandle with
  | error fault => exact failsOnly_throw (.setting (.handle found))
  | ok handle =>
    apply failsOnly_bind (failsOnly_useType (eq_hostImport_of_typeOf found))
    intro _
    exact failsOnly_pure _

/-! ### The declarations of a block -/

/-- A suspicious event name is a fault in strict mode only. -/
theorem failsOnly_checkEventName (event : String) :
    FailsOnly name generator.MayFail (generator.checkEventName event) := by
  unfold checkEventName
  split
  · exact failsOnly_pure _
  next suspicious =>
    split
    next strict => exact failsOnly_throw (.suspicious strict (by simpa using suspicious))
    next => exact failsOnly_warn _

theorem failsOnly_checkedConstant (event : Api.Event) :
    FailsOnly name generator.MayFail (generator.checkedConstant event) := by
  apply failsOnly_bind (failsOnly_checkEventName _)
  intro _
  apply failsOnly_bind (failsOnly_setting fun _ failed => .setting (.lead failed))
  intro lead
  apply failsOnly_bind (failsOnly_symbol _)
  intro symbol
  apply failsOnly_get
  intro p _
  exact failsOnly_bind (failsOnly_claim _) fun _ => failsOnly_pure _

theorem failsOnly_declareEvents (builtin : generator.templates = .builtin)
    (events : List Api.Event) :
    FailsOnly name generator.MayFail (generator.declareEvents events) := by
  unfold declareEvents
  split
  · refine failsOnly_bind ?_ fun declaration => failsOnly_declare builtin declaration
    refine failsOnly_bind (failsOnly_mapM fun event _ => failsOnly_checkedConstant event) ?_
    intro constants
    exact failsOnly_get fun _ _ => failsOnly_pure _
  · exact failsOnly_pure _

theorem failsOnly_structureOf (block : Block) (properties : List PropertyNode)
    (methods : List MethodNode) :
    FailsOnly name generator.MayFail (generator.structureOf block properties methods) := by
  apply failsOnly_bind failsOnly_hostHandle
  intro handle
  apply failsOnly_bind (failsOnly_mapM fun property _ => failsOnly_fieldOf _ property)
  intro fields
  apply failsOnly_bind (failsOnly_mapM fun method _ => failsOnly_methodFieldOf _ method)
  intro calls
  exact failsOnly_get fun _ _ => failsOnly_pure _

theorem failsOnly_declareBlock (builtin : generator.templates = .builtin) (block : Block) :
    FailsOnly name generator.MayFail (generator.declareBlock block) := by
  apply failsOnly_bind
  · unfold noteOmitted
    split
    · exact failsOnly_note _ _
    · exact failsOnly_pure _
  · intro _
    apply failsOnly_bind (failsOnly_declareEvents builtin _)
    intro _
    apply failsOnly_bind (failsOnly_structureOf _ _ _)
    intro declaration
    exact failsOnly_declare builtin declaration

/-! ### Declarations that wait -/

theorem failsOnly_enumBaseType (pending : Pending) :
    FailsOnly name generator.MayFail (generator.enumBaseType pending) := by
  apply failsOnly_basicType
  intro type _
  dsimp only
  split
  · exact failsOnly_pure _
  · exact failsOnly_pure _
  · exact failsOnly_bind (failsOnly_warn _) fun _ => failsOnly_pure _

theorem failsOnly_enumerationOf (pending : Pending) :
    FailsOnly name generator.MayFail (generator.enumerationOf pending) := by
  apply failsOnly_bind (failsOnly_enumBaseType pending)
  intro base
  refine failsOnly_bind (failsOnly_mapM fun value _ => ?_) fun _ => failsOnly_pure _
  apply failsOnly_bind (failsOnly_symbol _)
  intro symbol
  exact failsOnly_bind (failsOnly_claim _) fun _ => failsOnly_pure _

/-- What waits has a declaration, unless it is a basic property that waits as a composite. -/
theorem failsOnly_pendingDeclaration {pending : Pending}
    (composite : pending.kind = .composite → pending.node.property.kind ≠ .basic) :
    FailsOnly name generator.MayFail (generator.pendingDeclaration pending) := by
  unfold pendingDeclaration
  split
  · exact failsOnly_enumerationOf pending
  · exact failsOnly_bind (failsOnly_signatureOf _ _ _) fun _ => failsOnly_pure _
  next waits basic => exact absurd basic (composite waits)
  · apply failsOnly_bind failsOnly_hostHandle
    intro handle
    apply failsOnly_bind (failsOnly_mapM fun property _ => failsOnly_fieldOf _ property)
    intro fields
    exact failsOnly_pure _

/-- Every declaration that waits is written, whatever its turn. -/
theorem failsOnly_drainUpTo (builtin : generator.templates = .builtin) (limit : Nat) :
    FailsOnly name generator.MayFail (generator.drainUpTo limit) := by
  -- on the limit; the invariant of a pass holds again when the first entity was taken
  induction limit with
  | zero => exact failsOnly_pure 0
  | succ limit ih =>
    apply failsOnly_get
    intro p sound
    split
    · exact failsOnly_pure 0
    next pending rest waiting =>
      have here : pending ∈ p.scope.pending := waiting ▸ List.mem_cons_self
      have others : rest ⊆ p.scope.pending := waiting ▸ List.subset_cons_self _ _
      refine failsOnly_bind (failsOnly_set ⟨sound.isOpen, sound.named, ?_⟩) fun _ => ?_
      · exact fun other member => sound.composite other (others member)
      apply failsOnly_bind
      · apply failsOnly_bind (failsOnly_pendingDeclaration (sound.composite pending here))
        intro declaration
        exact failsOnly_declare builtin declaration
      · intro _
        refine failsOnly_bind
          (failsOnly_modify fun _ sound => ⟨sound.isOpen, sound.named, sound.composite⟩) fun _ => ?_
        exact failsOnly_bind ih fun _ => failsOnly_pure _

/-- The pass of a block has no faults but those of the settings: the sink is open to the end, no
template lacks anything, and nothing waits that has no declaration. -/
theorem failsOnly_emission (builtin : generator.templates = .builtin) (block : Block) :
    FailsOnly name generator.MayFail (generator.emission block) := by
  apply failsOnly_bind (failsOnly_declareBlock builtin block)
  intro _
  exact failsOnly_get fun _ _ => failsOnly_drainUpTo builtin _

/-- At the start the sink is open, and nothing waits. -/
theorem isSound_start {block : Block} {reserved : List String} {start : Pass}
    (started : Pass.start generator block reserved = .ok start) : start.IsSound block.name := by
  obtain ⟨_, _, -, -, rfl⟩ := start_eq_ok.mp started
  exact ⟨rfl, rfl, by simp [Scope.start]⟩

/-- A pass that succeeds hands over the sink of its block. -/
theorem blockName_of_runs {block : Block} {reserved : List String} {start pass : Pass}
    {nested : Nat} (builtin : generator.templates = .builtin)
    (started : Pass.start generator block reserved = .ok start)
    (run : Emit.Runs (generator.emission block) start nested pass) :
    pass.sink.blockName = block.name := by
  have ended := failsOnly_emission builtin block start (isSound_start started)
  rw [run] at ended
  exact ended.named

/-! ### Settings that serve everything -/

/-- Settings that serve every name and every type, and pass suspicious event names. -/
structure Serves (generator : Generator) : Prop where
  /-- No name, type, handle or import is refused. -/
  settings : ∀ fault, ¬ generator.Refuses fault
  /-- Every entity has a stem. -/
  stem : ∀ info, ∃ stem, generator.stem info = .ok stem
  /-- Suspicious event names are passed. -/
  lenient : generator.settings.strictEvents = false
  /-- The templates are those of the library. -/
  builtin : generator.templates = .builtin

namespace Serves

variable (serves : generator.Serves)

include serves

theorem exists_baseSymbol (info : Api.Info) : ∃ symbol, generator.baseSymbol info = .ok symbol := by
  cases found : generator.baseSymbol info with
  | error fault => exact absurd (.base found) (serves.settings fault)
  | ok symbol => exact ⟨symbol, rfl⟩

/-- No pass has a fault. -/
theorem not_mayFail (fault : PassFault) : ¬ generator.MayFail fault := by
  intro failed
  cases failed with
  | setting refused => exact serves.settings _ refused
  | suspicious strict =>
    rw [serves.lenient] at strict
    cases strict

/-- The pass of every block can start. -/
theorem exists_start (block : Block) (reserved : List String) :
    ∃ start, Pass.start generator block reserved = .ok start := by
  obtain ⟨symbol, base⟩ := serves.exists_baseSymbol block.info
  obtain ⟨stem, spelt⟩ := serves.stem block.info
  exact ⟨_, start_eq_ok.mpr ⟨symbol, stem, base, spelt, rfl⟩⟩

/-- It succeeds. -/
theorem exists_runs {block : Block} {reserved : List String} {start : Pass}
    (started : Pass.start generator block reserved = .ok start) :
    ∃ nested pass, Emit.Runs (generator.emission block) start nested pass := by
  have ended := failsOnly_emission serves.builtin block start (isSound_start started)
  rcases ran : (generator.emission block).outcome start with ⟨fault | nested, pass⟩
  · rw [ran] at ended
    exact absurd ended (serves.not_mayFail fault)
  · exact ⟨nested, pass, ran⟩

end Serves

end Generator

end HostBindings
