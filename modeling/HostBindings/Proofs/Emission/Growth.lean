import HostBindings.Proofs.Emission.Runs
import HostBindings.Proofs.Names.Fresh
import HostBindings.Proofs.Results

/-!
# What a pass gains between two declarations

Between two declarations a pass only claims names and queues nested entities. The names it claims
were free, all are made of the generator's symbols, and every queued entity is one of those that
were to be declared.

## Main definitions

* `Generator.Makes` — the names that can be made of the symbols of a generator
* `Pass.allocated` — the names that were given to nested entities, in order
* `Generator.HostOnly` — the imports that a pass can have
* `Generator.Grows` — names claimed and entities queued, nothing written
* `Generator.Queues` — growth that only queues, and only some of the given nodes

## Main results

* `Generator.Grows.trans`, `Generator.Queues.trans` — one growth after another
* `Generator.grows_claim`, `Generator.queues_register` — the two ways to get a name
* `Generator.queues_mapM` — a list gone through item by item
-/

namespace HostBindings

open Api (Info Property)

variable {generator : Generator} {p q r : Pass} {α β : Type}

/-- The names that can be made of the symbols of a generator. -/
inductive Generator.Makes (generator : Generator) : String → Prop where
  /-- The symbol of a name. -/
  | symbol {name made : String} : generator.symbol name = .ok made → generator.Makes made
  /-- The symbol of an entity. -/
  | base {info : Info} {made : String} : generator.baseSymbol info = .ok made →
      generator.Makes made
  /-- The symbol of an entity without the suffix of modules. -/
  | stem {info : Info} {made : String} : generator.stem info = .ok made → generator.Makes made
  /-- What the names of event constants begin with. -/
  | lead {made : String} : generator.settings.eventLeadText = .ok made → generator.Makes made
  /-- Two names joined. -/
  | append {first second : String} : generator.Makes first → generator.Makes second →
      generator.Makes (first ++ second)
  /-- A name with a number behind it. -/
  | numbered {name : String} (number : Nat) : generator.Makes name →
      generator.Makes (numbered name number)

theorem Generator.Makes.freshName {candidate : String} (taken : List String)
    (made : generator.Makes candidate) : generator.Makes (freshName taken candidate) := by
  simp only [HostBindings.freshName]
  split
  · exact made
  · split
    · exact made.numbered _
    · exact made

/-- The names that were given to nested entities, in order. -/
def Pass.allocated (pass : Pass) : List String := pass.scope.shapes.map (·.2)

/-- The names of a pass are made of the symbols of the generator. -/
structure Pass.IsMade (pass : Pass) (generator : Generator) : Prop where
  /-- The stem of the block. -/
  stem : generator.Makes pass.scope.stem
  /-- The names that were given to nodes. -/
  given : ∀ entry ∈ pass.scope.given, generator.Makes entry.2

/-- A nested entity that waits for its declaration, with what its name is shared by. -/
structure Queued where
  /-- What the name is shared by. -/
  key : ShapeKey
  /-- What waits. -/
  pending : Pending

namespace Queued

/-- The name of a queued entity. -/
def name (entry : Queued) : String := entry.pending.name

/-- Where a queued entity stands. -/
def node (entry : Queued) : PropertyNode := entry.pending.node

end Queued

/-- Imports of nothing, or of the host package alone. -/
def Generator.HostOnly (generator : Generator) (imports : List Json) : Prop :=
  imports = [] ∨ imports = [generator.types.hostImport]

/-- The host package is imported once. -/
theorem Generator.HostOnly.add {imports : List Json} (only : generator.HostOnly imports) :
    generator.HostOnly (Json.addOnce imports generator.types.hostImport) := by
  rcases only with rfl | rfl
  · exact .inr rfl
  · exact .inr (by simp [Json.addOnce, Json.isAmong])

/-- A pass claims names and queues entities, and writes nothing. -/
structure Generator.Grows (generator : Generator) (p q : Pass) (claimed : List String)
    (queued : List Queued) : Prop where
  /-- The claimed names are taken. -/
  names : q.scope.names = p.scope.names ++ claimed
  /-- No name is claimed twice. -/
  nodup : claimed.Nodup
  /-- The claimed names were free. -/
  fresh : ∀ name ∈ claimed, name ∉ p.scope.names
  /-- The claimed names are made of symbols. -/
  made : p.IsMade generator → ∀ name ∈ claimed, generator.Makes name
  /-- The names of queued entities were claimed. -/
  sub : ∀ entry ∈ queued, entry.name ∈ claimed
  /-- Queued entities share their names by shape. -/
  shapes : q.scope.shapes = p.scope.shapes ++ queued.map fun entry => (entry.key, entry.name)
  /-- Names are known by node. -/
  given : q.scope.given =
    (queued.map fun entry => (entry.node.id, entry.name)).reverse ++ p.scope.given
  /-- Queued entities wait in order. -/
  pending : q.scope.pending = p.scope.pending ++ queued.map (·.pending)
  /-- The names of the block stay. -/
  symbol : q.scope.symbol = p.scope.symbol
  /-- The stem of the block stays. -/
  stem : q.scope.stem = p.scope.stem
  /-- The text stays. -/
  text : q.sink.text = p.sink.text
  /-- The declarations stay. -/
  declarations : q.sink.declarations = p.sink.declarations
  /-- Nothing but the host package is imported. -/
  imports : generator.HostOnly p.sink.imports → generator.HostOnly q.sink.imports
  /-- The number of sections stays. -/
  sections : q.sections = p.sections
  /-- The record of what was written stays. -/
  declared : q.declared = p.declared

namespace Generator

/-- A step that touches neither names nor text. -/
theorem Grows.of_same (scope : q.scope = p.scope) (sink : q.sink = p.sink)
    (sections : q.sections = p.sections) (declared : q.declared = p.declared) :
    generator.Grows p q [] [] := by
  constructor <;> simp_all

theorem Grows.refl (p : Pass) : generator.Grows p p [] [] :=
  .of_same rfl rfl rfl rfl

/-- A step that imports the host package. -/
theorem Grows.of_import
    (step : q = { p with sink := p.sink.addImport generator.types.hostImport }) :
    generator.Grows p q [] [] := by
  subst step
  constructor <;> simp [Sink.addImport]
  exact HostOnly.add

/-- Growth keeps the names made. -/
theorem Grows.isMade {claimed : List String} {queued : List Queued}
    (grows : generator.Grows p q claimed queued) (made : p.IsMade generator) :
    q.IsMade generator where
  stem := grows.stem ▸ made.stem
  given entry member := by
    rw [grows.given, List.mem_append, List.mem_reverse, List.mem_map] at member
    rcases member with ⟨entry, member, rfl⟩ | member
    · exact grows.made made _ (grows.sub entry member)
    · exact made.given entry member

/-- One growth after another. -/
theorem Grows.trans {claimed more : List String} {queued others : List Queued}
    (first : generator.Grows p q claimed queued) (second : generator.Grows q r more others) :
    generator.Grows p r (claimed ++ more) (queued ++ others) where
  names := by rw [second.names, first.names, List.append_assoc]
  -- what is claimed first is taken when the second growth claims its names
  nodup := by
    refine List.nodup_append.mpr ⟨first.nodup, second.nodup, ?_⟩
    rintro name early _ late rfl
    exact second.fresh name late (first.names ▸ List.mem_append_right _ early)
  fresh name member := by
    rcases List.mem_append.mp member with early | late
    · exact first.fresh name early
    · exact fun taken => second.fresh name late (first.names ▸ List.mem_append_left _ taken)
  made made name member := by
    rcases List.mem_append.mp member with early | late
    · exact first.made made name early
    · exact second.made (first.isMade made) name late
  sub entry member := by
    rcases List.mem_append.mp member with early | late
    · exact List.mem_append_left _ (first.sub entry early)
    · exact List.mem_append_right _ (second.sub entry late)
  shapes := by rw [second.shapes, first.shapes, List.map_append, List.append_assoc]
  given := by
    rw [second.given, first.given, List.map_append, List.reverse_append, List.append_assoc]
  pending := by rw [second.pending, first.pending, List.map_append, List.append_assoc]
  symbol := second.symbol.trans first.symbol
  stem := second.stem.trans first.stem
  text := second.text.trans first.text
  declarations := second.declarations.trans first.declarations
  imports := second.imports ∘ first.imports
  sections := second.sections.trans first.sections
  declared := second.declared.trans first.declared

theorem Grows.allocated {claimed : List String} {queued : List Queued}
    (grows : generator.Grows p q claimed queued) :
    q.allocated = p.allocated ++ queued.map (·.name) := by
  simp [Pass.allocated, grows.shapes]

/-- A claimed name is the fresh one for its candidate. -/
theorem grows_claim {candidate name : String} (run : Emit.Runs (Emit.claim candidate) p name q)
    (made : p.IsMade generator → generator.Makes candidate) :
    name = freshName p.scope.names candidate ∧ generator.Grows p q [name] [] := by
  obtain ⟨rfl, rfl⟩ := Emit.runs_claim.mp run
  refine ⟨rfl, ?_⟩
  constructor <;> simp [Scope.claim, freshName_not_mem]
  exact fun made' => (made made').freshName _

/-! ### Nested entities -/

/-- What the names below an owner begin with is made of symbols. -/
theorem makes_scopeFor {parent : Option Entity} {lead : String} (made : p.IsMade generator)
    (found : p.scope.scopeFor generator.symbol parent = .ok lead) : generator.Makes lead := by
  rcases Scope.scopeFor_cases found with rfl | ⟨entry, member, rfl⟩ | ⟨owner, symbol, spelt, rfl⟩
  · exact made.stem
  · exact made.given entry member
  · exact made.stem.append (.symbol spelt)

/-- A pass queues some of the given nodes, each under a name of its own, and writes nothing. -/
def Queues (generator : Generator) (p q : Pass) (nodes : List PropertyNode) : Prop :=
  ∃ queued : List Queued,
    generator.Grows p q (queued.map (·.name)) queued ∧ (queued.map (·.node)).Sublist nodes

theorem Queues.of_grows {nodes : List PropertyNode} (grows : generator.Grows p q [] []) :
    generator.Queues p q nodes :=
  ⟨[], grows, List.nil_sublist _⟩

/-- Queueing after queueing. -/
theorem Queues.trans {nodes others : List PropertyNode} (first : generator.Queues p q nodes)
    (second : generator.Queues q r others) : generator.Queues p r (nodes ++ others) := by
  obtain ⟨queued, grows, sub⟩ := first
  obtain ⟨more, grows', sub'⟩ := second
  refine ⟨queued ++ more, ?_, ?_⟩
  · simpa using grows.trans grows'
  · simpa using sub.append sub'

/-- Names that were given to nested entities stay. -/
theorem Queues.allocated_subset {nodes : List PropertyNode}
    (queues : generator.Queues p q nodes) : p.allocated ⊆ q.allocated := by
  obtain ⟨queued, grows, -⟩ := queues
  rw [grows.allocated]
  exact List.subset_append_left _ _

/-- A nested entity shares the name of its shape, or claims one and waits for its declaration. -/
theorem queues_register {kind : PendingKind} {node : PropertyNode} {parent : Option Entity}
    {name : String} (run : Emit.Runs (Emit.register generator kind node parent) p name q) :
    name ∈ q.allocated ∧ generator.Queues p q [node] := by
  cases run ▸ Emit.registers generator kind node parent p with
  | shares log spelt found =>
    -- the shape has a name already, which was given to a nested entity
    have member := mem_of_lookup_eq_some found
    exact ⟨List.mem_map.mpr ⟨_, member, rfl⟩, .of_grows (.of_same rfl rfl rfl rfl)⟩
  | @gives symbol lead _ log spelt new led claimed =>
    have fresh : name ∉ p.scope.names := claimed ▸ freshName_not_mem _ _
    have made (made : p.IsMade generator) : generator.Makes name :=
      claimed ▸ ((makes_scopeFor made led).append (.symbol spelt)).freshName _
    let entry : Queued := ⟨⟨kind, symbol, node.property.shape⟩, ⟨kind, name, node⟩⟩
    refine ⟨by simp [Pass.allocated, Scope.entered], [entry], ?_, List.Sublist.refl _⟩
    constructor <;> simp [Scope.entered, Queued.name, Queued.node, entry, fresh]
    exact made

/-! ### Lists -/

/-- A list gone through item by item: every result fits its item, and the nodes of all items are
queued one item after the other. What fits once fits after more names were given. -/
theorem queues_mapM {action : α → Emit β} (nodesOf : α → List PropertyNode)
    (Fits : List String → α → β → Prop)
    (grow : ∀ {names more a b}, names ⊆ more → Fits names a b → Fits more a b)
    (each : ∀ {a p b q}, Emit.Runs (action a) p b q →
      Fits q.allocated a b ∧ generator.Queues p q (nodesOf a))
    {items : List α} {results : List β} (run : Emit.Runs (items.mapM action) p results q) :
    List.Forall₂ (Fits q.allocated) items results ∧
      generator.Queues p q (items.flatMap nodesOf) := by
  -- the results of the first items fit the names at the end, since names only get more
  induction items generalizing p results with
  | nil =>
    obtain ⟨rfl, rfl⟩ := Emit.runs_pure.mp (by simpa using run)
    exact ⟨.nil, .of_grows (.refl q)⟩
  | cons item rest ih =>
    obtain ⟨result, m, others, first, last, rfl⟩ := Emit.runs_mapM_cons.mp run
    obtain ⟨fits, queues⟩ := each first
    obtain ⟨fit, more⟩ := ih last
    exact ⟨.cons (grow more.allocated_subset fits) fit, queues.trans more⟩

/-- A list gone through item by item where every result is a name that is claimed. -/
theorem grows_mapM {action : α → Emit β} {nameOf : β → String} {Fits : α → β → Prop}
    (each : ∀ {a p b q}, Emit.Runs (action a) p b q →
      Fits a b ∧ generator.Grows p q [nameOf b] [])
    {items : List α} {results : List β} (run : Emit.Runs (items.mapM action) p results q) :
    List.Forall₂ Fits items results ∧ generator.Grows p q (results.map nameOf) [] := by
  induction items generalizing p results with
  | nil =>
    obtain ⟨rfl, rfl⟩ := Emit.runs_pure.mp (by simpa using run)
    exact ⟨.nil, .refl q⟩
  | cons item rest ih =>
    obtain ⟨result, m, others, first, last, rfl⟩ := Emit.runs_mapM_cons.mp run
    obtain ⟨fits, grows⟩ := each first
    obtain ⟨fit, more⟩ := ih last
    exact ⟨.cons fits fit, grows.trans more⟩

end Generator

end HostBindings
