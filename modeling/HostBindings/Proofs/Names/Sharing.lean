import HostBindings.Proofs.Emission.Drain
import HostBindings.Proofs.Names.Table

/-!
# Names that are shared

In what order ever names are registered, reserved and declared, two registrations share a name
exactly where they agree in their kind, in the symbol of the property and in its shape. A name that
went to a constant, or was reserved, is not the name of a nested entity, and no name is given out
that was taken before.

## Main definitions

* `NameOperation` — what can be asked of the names of a block
* `NameOperation.runAll` — operations one after another, whether they succeed or not

## Main results

* `Generator.steps_drain` — the declarations that wait
* `NameOperation.Answered` — what is kept of the answers while operations go on
* `NameOperation.name_shared_iff`
-/

namespace HostBindings

open Api (Block PossibleValue)
open Emit (Ensures Steps ensures_bind ensures_pure ensures_get ensures_set ensures_modify
  ensures_throw steps_bind steps_pure)

namespace Generator

variable (generator : Generator)

/-! ### Declarations -/

theorem steps_useType (type : BindingType) : Steps (useType type) :=
  Emit.steps_forM Emit.steps_requireImport _

theorem steps_typeNameOf (node : PropertyNode) (parent : Option Entity) :
    Steps (generator.typeNameOf node parent) := by
  have nested (kind : PendingKind) :
      Steps (do return Code.TypeName.nested (← Emit.register generator kind node parent)) :=
    steps_bind (Emit.ensures_register generator kind node parent).steps fun _ => steps_pure _
  unfold typeNameOf
  split
  · exact nested .constants
  · split
    · exact steps_bind (Emit.steps_setting _) fun type =>
        steps_bind (steps_useType type) fun _ => steps_pure _
    · exact nested .composite

theorem steps_slotOf (node : PropertyNode) (parent : Option Entity) :
    Steps (generator.slotOf node parent) :=
  steps_bind (Emit.steps_setting _) fun _ =>
    steps_bind (generator.steps_typeNameOf node parent) fun _ => steps_pure _

theorem steps_signatureOf (owner : Entity) (parameters : List PropertyNode)
    (result? : Option PropertyNode) : Steps (generator.signatureOf owner parameters result?) := by
  refine steps_bind (Emit.steps_mapM (fun node => generator.steps_slotOf node (some owner)) _)
    fun slots => ?_
  cases result? with
  | none => exact steps_pure _
  | some node => exact steps_bind (generator.steps_slotOf node (some owner)) fun _ => steps_pure _

theorem steps_fieldOf (parent : Entity) (node : PropertyNode) :
    Steps (generator.fieldOf parent node) :=
  steps_bind (generator.steps_slotOf node (some parent)) fun _ => steps_pure _

theorem steps_hostHandle : Steps generator.hostHandle :=
  steps_bind (Emit.steps_setting _) fun handle =>
    steps_bind (steps_useType handle) fun _ => steps_pure _

/-- The constant of an event has a name that was free before. -/
theorem ensures_eventConstant (comments : List String) (name : String) (names : List String) :
    Ensures (fun p => names ⊆ p.scope.names) (generator.eventConstant comments name)
      fun constant p => p.Spent constant.name ∧ constant.name ∉ names := by
  have stable {p q : Pass} (old : names ⊆ p.scope.names) (evolves : p.Evolves q) :
      names ⊆ q.scope.names := List.Subset.trans old (Pass.names_subset_of_evolves evolves)
  -- up to the claim, the names that were taken at the start are carried along
  refine ensures_bind ((Emit.steps_setting _).keep stable) fun lead => ?_
  refine ensures_bind ((Emit.steps_setting _).keep stable) fun symbol => ?_
  refine ensures_bind (ensures_get.steps.keep stable) fun pass => ?_
  refine ensures_bind (Emit.ensures_claim _ names) fun identifier => ?_
  exact ensures_pure fun _ spent => spent

/-- The name of a member of an enumeration is spent. -/
theorem ensures_memberOf (name : String) (quoted : Bool) (value : PossibleValue) :
    Ensures (fun _ => True) (generator.memberOf name quoted value)
      fun constant p => p.Spent constant.name := by
  refine ensures_bind (Emit.steps_setting _) fun symbol => ?_
  refine ensures_bind ((Emit.ensures_claim _ []).weaken (fun _ _ => List.nil_subset _)
    fun _ _ both => both.1) fun member => ?_
  exact ensures_pure fun _ spent => spent

theorem steps_enumBaseType (pending : Pending) : Steps (generator.enumBaseType pending) := by
  refine steps_bind (Emit.steps_setting _) fun type => ?_
  dsimp only
  split
  · exact steps_pure _
  · exact steps_pure _
  · exact steps_bind (Emit.steps_warn _) fun _ => steps_pure _

/-- The names of the constants in the declaration of what waits are spent. -/
theorem ensures_pendingDeclaration (pending : Pending) :
    Ensures (fun _ => True) (generator.pendingDeclaration pending)
      fun declaration p => ∀ constant ∈ declaration.constants, p.Spent constant.name := by
  have none {declaration : Code.Declaration} (empty : declaration.constants = []) :
      ∀ p : Pass, True → ∀ constant ∈ declaration.constants, p.Spent constant.name := by
    simp [empty]
  unfold pendingDeclaration
  split
  · refine ensures_bind (generator.steps_enumBaseType pending) fun base => ?_
    refine ensures_bind (Emit.ensures_mapM (fun spent evolves => spent.evolves evolves)
      (generator.ensures_memberOf pending.name _) _) fun members => ?_
    exact ensures_pure fun _ spent => spent
  · exact ensures_bind (generator.steps_signatureOf _ _ _) fun _ => ensures_pure (none rfl)
  · exact ensures_throw
  · refine ensures_bind generator.steps_hostHandle fun handle => ?_
    refine ensures_bind (Emit.steps_mapM (generator.steps_fieldOf _) _) fun fields => ?_
    exact ensures_pure (none rfl)

/-- What waits is declared; between two declarations, only what waits changes. -/
theorem steps_drainUpTo (limit : Nat) : Steps (generator.drainUpTo limit) := by
  induction limit with
  | zero => exact steps_pure 0
  | succ limit ih =>
    refine ensures_bind ensures_get fun pass => ?_
    split
    · exact ensures_pure fun _ _ => trivial
    next pending rest _ =>
      have taken : Ensures (fun p => True ∧ pass = p)
          (set { pass with scope := { pass.scope with pending := rest } }) fun _ _ => True := by
        refine ensures_set ?_ trivial
        rintro p - ⟨-, rfl⟩
        exact .quiet rfl rfl rfl
      refine ensures_bind taken fun _ => ?_
      refine steps_bind ?_ fun _ => steps_bind ?_ fun _ => steps_bind ih fun _ => steps_pure _
      · exact ensures_bind (generator.ensures_pendingDeclaration pending)
          (Emit.steps_declare generator)
      · exact ensures_modify (fun _ _ _ => .quiet rfl rfl rfl) fun _ _ => trivial

theorem steps_drain : Steps generator.drain :=
  steps_bind ensures_get.steps fun _ => generator.steps_drainUpTo _

end Generator

/-! ### Operations -/

/-- What can be asked of the names of a block. -/
inductive NameOperation where
  /-- A name for a nested entity. -/
  | register (kind : PendingKind) (node : PropertyNode) (parent : Option Entity)
  /-- A name for a candidate. -/
  | reserve (candidate : String)
  /-- A constant for the name of an event. -/
  | event (comments : List String) (name : String)
  /-- The declarations of what waits. -/
  | declareWaiting

namespace NameOperation

variable {generator : Generator} {p q : Pass}

/-- What an operation does; the answer is the name that it gives out, if it is one that does. -/
def perform (generator : Generator) : NameOperation → Emit (Option String)
  | register kind node parent => do return some (← Emit.register generator kind node parent)
  | reserve candidate => do return some (← Emit.claim candidate)
  | event comments name => do return some (← generator.eventConstant comments name).name
  | declareWaiting => do
    let _ ← generator.drain
    return none

/-- An operation with its answer, or the fault with which it ended. -/
abbrev Answer := NameOperation × Except PassFault (Option String)

/-- Operations one after another, each in the state that the one before led to. One that fails
keeps what it did so far. -/
def runAll (generator : Generator) : List NameOperation → Pass → List Answer × Pass
  | [], pass => ([], pass)
  | operation :: rest, pass =>
    let (result, next) := (operation.perform generator).outcome pass
    let (answers, last) := runAll generator rest next
    ((operation, result) :: answers, last)

/-- What is known of an answer in a later state; `names` are the names that were taken before. -/
def Answered (generator : Generator) (names : List String) (last : Pass) : Answer → Prop
  | (register kind node _, .ok (some name)) =>
    ∃ symbol, generator.symbol node.property.info.name = .ok symbol ∧
      (⟨kind, symbol, node.property.shape⟩, name) ∈ last.scope.shapes
  | (_, .ok (some name)) => last.Spent name ∧ name ∉ names
  | _ => True

/-- What is known of an answer stays known, and the fewer names were taken the less is said. -/
theorem Answered.evolves {names fewer : List String} {answer : Answer} (sub : fewer ⊆ names)
    (answered : Answered generator names p answer) (evolves : p.Evolves q) :
    Answered generator fewer q answer := by
  obtain ⟨operation, fault | _ | name⟩ := answer
  · cases operation <;> trivial
  · cases operation <;> trivial
  · have spent (here : p.Spent name ∧ name ∉ names) : q.Spent name ∧ name ∉ fewer :=
      ⟨here.1.evolves evolves, fun old => here.2 (sub old)⟩
    cases operation with
    | register =>
      obtain ⟨symbol, spelt, listed⟩ := answered
      exact ⟨symbol, spelt, Pass.mem_shapes_of_evolves listed evolves⟩
    | reserve | event | declareWaiting => exact spent answered

/-- One operation takes steps, and its answer is known. -/
theorem perform_answered (generator : Generator) (operation : NameOperation) (sound : p.Sound) :
    p.Evolves ((operation.perform generator).outcome p).2 ∧
      Answered generator p.scope.names ((operation.perform generator).outcome p).2
        (operation, ((operation.perform generator).outcome p).1) := by
  have ensures : Ensures (fun s => p.scope.names ⊆ s.scope.names) (operation.perform generator)
      fun name? last => Answered generator p.scope.names last (operation, .ok name?) := by
    cases operation with
    | register kind node parent =>
      refine ensures_bind ((Emit.ensures_register generator kind node parent).weaken
        (fun _ _ => trivial) fun _ _ listed => listed) fun name => ?_
      exact ensures_pure fun _ listed => listed
    | reserve candidate =>
      exact ensures_bind (Emit.ensures_claim candidate _) fun _ => ensures_pure fun _ spent => spent
    | event comments name =>
      exact ensures_bind (generator.ensures_eventConstant comments name _) fun _ =>
        ensures_pure fun _ spent => spent
    | declareWaiting =>
      refine ensures_bind (generator.steps_drain.weaken (fun _ _ => trivial) fun _ _ _ => trivial)
        fun count => ?_
      exact ensures_pure fun _ _ => trivial
  obtain ⟨evolves, answered⟩ := ensures p sound (List.Subset.refl _)
  refine ⟨evolves, ?_⟩
  -- nothing is said of the answer of an operation that fails
  rcases ran : ((operation.perform generator).outcome p).1 with fault | name?
  · cases operation <;> trivial
  · exact answered name? ran

/-- Operations one after another take steps, and all answers are known. -/
theorem runAll_answered (generator : Generator) (operations : List NameOperation)
    (sound : p.Sound) :
    p.Evolves (runAll generator operations p).2 ∧
      ∀ answer ∈ (runAll generator operations p).1,
        Answered generator p.scope.names (runAll generator operations p).2 answer := by
  induction operations generalizing p with
  | nil => exact ⟨.refl, fun _ member => by cases member⟩
  | cons operation rest ih =>
    obtain ⟨evolves, answered⟩ := perform_answered generator operation sound
    obtain ⟨more, others⟩ := ih (sound.evolves evolves)
    refine ⟨evolves.trans more, fun answer member => ?_⟩
    -- the first answer outlives the other operations, and these start with more names taken
    rcases List.mem_cons.mp member with rfl | later
    · exact answered.evolves (List.Subset.refl _) more
    · exact (others answer later).evolves (Pass.names_subset_of_evolves evolves) .refl

/-- A pass starts with its books in order: the names of other blocks and its own are taken, and
none is given. -/
theorem sound_start {block : Block} {reserved : List String} {start : Pass}
    (started : Pass.start generator block reserved = .ok start) :
    start.Sound ∧ start.allocated = [] ∧ reserved ⊆ start.scope.names ∧
      ∀ symbol, generator.baseSymbol block.info = .ok symbol → symbol ∈ start.scope.names := by
  have taken (symbol : String) (spelt : generator.baseSymbol block.info = .ok symbol) :
      symbol ∈ start.scope.names :=
    Generator.symbol_of_start started spelt ▸ Generator.symbol_mem_start started
  have subset := Generator.reserved_subset_start started
  obtain ⟨symbol, stem, spelt, -, rfl⟩ := Generator.start_eq_ok.mp started
  exact ⟨⟨List.nodup_nil, List.nodup_nil, List.nil_subset _, by simp⟩, rfl, subset, taken⟩

/-- Whatever is asked of the names of a block, in whatever order: two registrations share a name
exactly where kind, symbol and shape are the same, and so it is in the table of all names that were
given to nested entities, on request or by the declarations of what waits. None of these names is
one that was reserved, or the name of a constant; and no name that was given out was taken by the
other blocks or by the block itself. -/
theorem name_shared_iff {block : Block} {reserved : List String} {start : Pass}
    (started : Pass.start generator block reserved = .ok start)
    (operations : List NameOperation) :
    let answers := (runAll generator operations start).1
    let last := (runAll generator operations start).2
    (∀ {kind node parent name kind' node' parent' name'},
      (register kind node parent, .ok (some name)) ∈ answers →
      (register kind' node' parent', .ok (some name')) ∈ answers →
      (name = name' ↔ kind = kind' ∧
        generator.symbol node.property.info.name = generator.symbol node'.property.info.name ∧
        node.property.shape = node'.property.shape)) ∧
    (∀ entry ∈ last.scope.shapes, ∀ other ∈ last.scope.shapes,
      (entry.2 = other.2 ↔ entry.1 = other.1)) ∧
    (∀ {kind node parent name}, (register kind node parent, .ok (some name)) ∈ answers →
      name ∈ last.allocated) ∧
    (∀ {candidate name}, (reserve candidate, .ok (some name)) ∈ answers →
      name ∉ last.allocated) ∧
    (∀ {comments event name}, (.event comments event, .ok (some name)) ∈ answers →
      name ∉ last.allocated) ∧
    (∀ declaration ∈ last.sink.declarations, ∀ constant ∈ declaration.constants,
      constant.name ∉ last.allocated) ∧
    ∀ name, name ∈ last.allocated ∨ (∃ operation, (operation, .ok (some name)) ∈ answers) →
      name ∉ reserved ∧ generator.baseSymbol block.info ≠ .ok name := by
  intro answers last
  obtain ⟨sound, none, others, own⟩ := sound_start started
  obtain ⟨evolves, answered⟩ := runAll_answered generator operations sound
  have final : last.Sound := sound.evolves evolves
  have given {kind node parent name}
      (member : (register kind node parent, .ok (some name)) ∈ answers) :
      ∃ symbol, generator.symbol node.property.info.name = .ok symbol ∧
        (⟨kind, symbol, node.property.shape⟩, name) ∈ last.scope.shapes :=
    answered (register kind node parent, .ok (some name)) member
  have allocated {kind node parent name}
      (member : (register kind node parent, .ok (some name)) ∈ answers) :
      name ∈ last.allocated := by
    obtain ⟨symbol, -, listed⟩ := given member
    exact List.mem_map_of_mem (f := (·.2)) listed
  -- what was taken at the start went to no nested entity, then or later
  have apart {name} (here : name ∈ last.allocated) : name ∉ start.scope.names := fun taken =>
    (Pass.Spent.evolves ⟨taken, by simp [none]⟩ evolves).unshared here
  refine ⟨?_, ?_, allocated, ?_, ?_, ?_, ?_⟩
  · intro kind node parent name kind' node' parent' name' first second
    obtain ⟨symbol, spelt, listed⟩ := given first
    obtain ⟨symbol', spelt', listed'⟩ := given second
    rw [final.name_eq_iff listed listed', spelt, spelt']
    simp
  · exact fun entry listed other listed' => final.name_eq_iff listed listed'
  · exact fun member => (answered _ member).1.unshared
  · exact fun member => (answered _ member).1.unshared
  · exact fun declaration written constant member =>
      (final.constants declaration written constant member).unshared
  · intro name given'
    have free : name ∉ start.scope.names := by
      rcases given' with here | ⟨operation, member⟩
      · exact apart here
      · cases operation with
        | register => exact apart (allocated member)
        | reserve | event | declareWaiting => exact (answered _ member).2
    exact ⟨fun old => free (others old), fun same => free (own name same)⟩

/-- The names that operations on a block give out under settings. -/
def namesGiven (settings : Settings) (block : Block) (reserved : List String)
    (operations : List NameOperation) : Option (List (Option String)) := do
  let generator ← (Generator.ofSettings settings).toOption
  let start ← (Pass.start generator block reserved).toOption
  return (runAll generator operations start).1.map (·.2.toOption.join)

theorem exists_start {settings : Settings} {block : Block} {reserved : List String}
    {operations : List NameOperation} {names : List (Option String)}
    (evaluated : namesGiven settings block reserved operations = some names) :
    ∃ generator start, Generator.ofSettings settings = .ok generator ∧
      Pass.start generator block reserved = .ok start ∧
      (runAll generator operations start).1.map (·.2.toOption.join) = names := by
  simp only [namesGiven, Option.bind_eq_bind, Option.bind_eq_some_iff, toOption_eq_some_iff,
    Option.pure_def, Option.some.injEq] at evaluated
  obtain ⟨generator, configured, start, started, names⟩ := evaluated
  exact ⟨generator, start, configured, started, names⟩

/-- A nested structure with one field of a type, at a place of a block. -/
def nestedItem (place : Nat) (description type : String) : PropertyNode where
  id := NodeId.block.child (.property place)
  property :=
    { info := { name := "item", rawType := .single "Object", description }
      properties := [{ info := { name := "label", rawType := .single type } }] }

/-- Two entities that share a name, one that does not, and a candidate that is taken twice. -/
def sharingSample : List NameOperation :=
  [.register .composite (nestedItem 0 "first" "String") none,
    .register .composite (nestedItem 1 "second" "String") none, .declareWaiting,
    .register .composite (nestedItem 2 "third" "Integer") none, .reserve "MenuItem",
    .event [] "item"]

theorem name_shared_iff_sample :
    ∃ generator start, Generator.ofSettings {} = .ok generator ∧
      Pass.start generator { info := { name := "menu" } } ["MenuItem2"] = .ok start ∧
      (runAll generator sharingSample start).1.map (·.2.toOption.join) =
        [some "MenuItem", some "MenuItem", none, some "MenuItem3", some "MenuItem4",
          some "EvtMenuItem"] ∧
      ∀ name ∈ (runAll generator sharingSample start).2.allocated, name ≠ "MenuItem2" := by
  have evaluated : namesGiven {} { info := { name := "menu" } } ["MenuItem2"] sharingSample =
      some [some "MenuItem", some "MenuItem", none, some "MenuItem3", some "MenuItem4",
        some "EvtMenuItem"] := by decide +kernel
  obtain ⟨generator, start, configured, started, names⟩ := exists_start evaluated
  obtain ⟨-, -, -, -, -, -, apart⟩ := name_shared_iff started sharingSample
  refine ⟨generator, start, configured, started, names, fun name here same => ?_⟩
  exact (apart name (.inl here)).1 (by simp [same])

end NameOperation

end HostBindings
