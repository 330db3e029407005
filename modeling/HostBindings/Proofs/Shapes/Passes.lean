import HostBindings.Proofs.Emission.Runs
import HostBindings.Proofs.Shapes.Alike
import HostBindings.Proofs.Shapes.Views

/-!
# Passes over alike properties

Two passes go side by side over nodes that are paired and whose properties are alike. The one does
what the other does: their actions have the same result or the same fault, and the states stay the
same but for the nodes that got names and wait. Where results have comments, they are the same
through a view.

The nodes that are paired need not stand at the same place. So one argument compares a whole
description with a reworked one, and the declaration of one node with that of another.

## Main definitions

* `Generator.Pairing` — which nodes and which sinks are paired; `Pairing.beside` every node with
  itself, `Pairing.same` every sink as well, `Pairing.between` one node with another
* `Pass.Alike` — the same state but for the nodes, with sinks that are paired
* `Emit.Agree` — actions that do the same from states that are alike
* `Emit.AgreeBy` — actions whose results look the same

## Main results

* `Emit.agree_bind`, `Emit.agree_get`, `Emit.agree_mapM` — composed actions
* `Emit.agree_register` — alike nodes get one name
* `Emit.agree_declare` — one declaration is written by both
-/

namespace HostBindings

open Api (Block Event Method Property PossibleValue)

/-! ### Pairs of nodes -/

theorem NodeId.child_ne (id : NodeId) (edge : Edge) : id.child edge ≠ id := by
  intro same
  simpa [child] using congrArg (·.steps.length) same

namespace Generator

variable (generator : Generator) (paired : NodeId → NodeId → Prop)

/-- Two owners are paired, and names below them are made the same way. -/
structure OwnersAlike (a b : Entity) : Prop where
  /-- The nodes are paired. -/
  id : paired a.id b.id
  /-- They have one symbol. -/
  symbol : generator.symbol a.info.name = generator.symbol b.info.name
  /-- They have one kind. -/
  kind : a.info.kind = b.info.kind

/-- Two declarations that wait for nodes that are paired, under one name. -/
structure PendingAlike (a b : Pending) : Prop where
  /-- They describe the same. -/
  kind : a.kind = b.kind
  /-- They have one name. -/
  name : a.name = b.name
  /-- The nodes are paired. -/
  id : paired a.node.id b.node.id
  /-- The nodes have one symbol. -/
  symbol : generator.symbol a.node.property.info.name = generator.symbol b.node.property.info.name
  /-- The nodes have one shape. -/
  shape : a.node.property.shape = b.node.property.shape

/-- How the sinks of two passes are paired. -/
structure SinkPairing where
  /-- Which sinks are paired. -/
  paired : Sink → Sink → Prop
  /-- They stay paired when an import is added to both. -/
  imports {s t : Sink} (path : Json) : paired s t → paired (s.addImport path) (t.addImport path)

/-- Every sink is paired with itself. -/
def SinkPairing.same : SinkPairing where
  paired := Eq
  imports _ same := by rw [same]

/-- How the nodes of two passes are paired, and their sinks. -/
structure Pairing where
  /-- Which nodes are paired as the owners of others. -/
  owners : NodeId → NodeId → Prop
  /-- Which nodes are paired as what is owned. -/
  nodes : NodeId → NodeId → Prop
  /-- What waits in the one pass while something else waits in the other. -/
  waiting : Pending → Pending → Prop
  /-- How the sinks are paired. -/
  sinks : SinkPairing
  /-- The block is only paired with itself. -/
  block {i j : NodeId} : owners i j → (i = .block ↔ j = .block)
  /-- What stands below paired owners is paired. -/
  child {i j : NodeId} (edge : Edge) : owners i j → nodes (i.child edge) (j.child edge)
  /-- An owner is owned itself only where its partner is. -/
  unique {i j i' j' : NodeId} : owners i j → nodes i' j' → (i = i' ↔ j = j')
  /-- What is queued on the way may wait together. -/
  waits {a b : Pending} : generator.PendingAlike nodes a b → waiting a b

/-- Every node is paired with itself, while sinks are paired in a way of their own. -/
def Pairing.beside (sinks : SinkPairing) : generator.Pairing where
  owners := Eq
  nodes := Eq
  waiting := generator.PendingAlike Eq
  sinks := sinks
  block paired := by rw [paired]
  child _ paired := by rw [paired]
  unique paired paired' := by rw [paired, paired']
  waits alike := alike

/-- Every node is paired with itself, and so is every sink. -/
def Pairing.same : generator.Pairing := .beside generator .same

/-- One node is paired with another, and what stands elsewhere is not told apart. -/
def Pairing.between (id id' : NodeId) (inner : id ≠ .block) (inner' : id' ≠ .block) :
    generator.Pairing where
  owners i j := i = id ∧ j = id'
  nodes i j := i ≠ id ∧ j ≠ id'
  waiting _ _ := True
  sinks := .same
  block := by
    rintro i j ⟨rfl, rfl⟩
    exact iff_of_false inner inner'
  child := by
    rintro i j edge ⟨rfl, rfl⟩
    exact ⟨i.child_ne edge, j.child_ne edge⟩
  unique := by
    rintro i j i' j' ⟨rfl, rfl⟩ ⟨other, other'⟩
    exact iff_of_false other.symm other'.symm
  waits _ := trivial

end Generator

/-- Two nodes are paired and their properties alike. -/
structure PropertyNode.Alike (paired : NodeId → NodeId → Prop) (a b : PropertyNode) : Prop where
  /-- The nodes are paired. -/
  id : paired a.id b.id
  /-- The properties are alike. -/
  property : a.property.Alike b.property

/-- Two nodes are paired as owners, and their methods alike. -/
structure MethodNode.Alike (paired : NodeId → NodeId → Prop) (a b : MethodNode) : Prop where
  /-- The nodes are paired. -/
  id : paired a.id b.id
  /-- The methods are alike. -/
  method : a.method.Alike b.method

/-- The same state of two passes, but for the nodes that got names and wait. -/
structure Pass.Alike {generator : Generator} (pairing : generator.Pairing) (p q : Pass) :
    Prop where
  block : p.block.name = q.block.name
  symbol : p.scope.symbol = q.scope.symbol
  stem : p.scope.stem = q.scope.stem
  names : p.scope.names = q.scope.names
  shapes : p.scope.shapes = q.scope.shapes
  /-- Paired owners have the same name, or none. -/
  given {i j : NodeId} : pairing.owners i j → p.scope.given.lookup i = q.scope.given.lookup j
  pending : List.Forall₂ pairing.waiting p.scope.pending q.scope.pending
  sink : pairing.sinks.paired p.sink q.sink
  sections : p.sections = q.sections
  warnings : p.warnings = q.warnings
  log : p.log = q.log

/-! ### Actions that agree -/

namespace Emit

variable {α β γ δ : Type}

/-- From related states, two actions have the same result or the same fault, and lead to related
states. -/
def Agree (related : Pass → Pass → Prop) (action action' : Emit α) : Prop :=
  ∀ p q, related p q → (action.outcome p).1 = (action'.outcome q).1 ∧
    related (action.outcome p).2 (action'.outcome q).2

variable {related : Pass → Pass → Prop}

theorem agree_pure (a : α) : Agree related (pure a) (pure a) :=
  fun _ _ here => ⟨rfl, here⟩

theorem agree_throw (fault : PassFault) : Agree related (throw fault : Emit α) (throw fault) :=
  fun _ _ here => ⟨rfl, here⟩

theorem agree_bind {action action' : Emit α} {next next' : α → Emit β}
    (first : Agree related action action') (second : ∀ a, Agree related (next a) (next' a)) :
    Agree related (action >>= next) (action' >>= next') := by
  intro p q here
  obtain ⟨same, later⟩ := first p q here
  simp only [outcome_bind]
  -- the results are the same, so both actions stop or both go on
  rcases ran : action.outcome p with ⟨fault | a, m⟩
  all_goals
    rcases ran' : action'.outcome q with ⟨result', m'⟩
    rw [ran, ran'] at same later
    cases same
  · exact ⟨rfl, later⟩
  · exact second a m m' later

theorem agree_ite {c : Prop} [Decidable c] {yes yes' no no' : Emit α}
    (left : Agree related yes yes') (right : Agree related no no') :
    Agree related (if c then yes else no) (if c then yes' else no') := by
  split
  · exact left
  · exact right

/-- What is done next may depend on the states, as long as these are related. -/
theorem agree_get {next next' : Pass → Emit α}
    (second : ∀ p q, related p q → Agree related (next p) (next' q)) :
    Agree related (get >>= next) (get >>= next') := by
  intro p q here
  simp only [outcome_bind, outcome_get]
  exact second p q here p q here

theorem agree_set {p q : Pass} (here : related p q) : Agree related (set p) (set q) :=
  fun _ _ _ => ⟨rfl, here⟩

theorem agree_modify {change change' : Pass → Pass}
    (keeps : ∀ p q, related p q → related (change p) (change' q)) :
    Agree related (modify change) (modify change') :=
  fun p q here => ⟨rfl, keeps p q here⟩

/-- Two lists gone through item by item. -/
theorem agree_mapM {f : γ → Emit α} {g : δ → Emit α} {Fits : γ → δ → Prop}
    (each : ∀ {a b}, Fits a b → Agree related (f a) (g b)) {items : List γ} {others : List δ}
    (fits : List.Forall₂ Fits items others) : Agree related (items.mapM f) (others.mapM g) := by
  induction fits with
  | nil => exact agree_pure []
  | cons first _ ih =>
    rw [List.mapM_cons, List.mapM_cons]
    exact agree_bind (each first) fun result => agree_bind ih fun results => agree_pure _

theorem agree_forM {f : γ → Emit PUnit} (each : ∀ a, Agree related (f a) (f a))
    (items : List γ) : Agree related (items.forM f) (items.forM f) := by
  induction items with
  | nil => exact agree_pure ()
  | cons item rest ih => exact agree_bind (each item) fun _ => ih

theorem agree_setting (result : Except UseFault α) :
    Agree related (setting result) (setting result) := by
  cases result with
  | ok value => exact agree_pure value
  | error fault => exact agree_throw _

/-! ### Results through a view -/

/-- From related states, two actions have results that look the same or the same fault, and lead to
related states. -/
def AgreeBy (view : α → γ) (related : Pass → Pass → Prop) (action action' : Emit α) : Prop :=
  ∀ p q, related p q → (action.outcome p).1.map view = (action'.outcome q).1.map view ∧
    related (action.outcome p).2 (action'.outcome q).2

section Views

variable {view : α → γ} {other : β → δ}

theorem Agree.by {action action' : Emit α} (agree : Agree related action action')
    (view : α → γ) : AgreeBy view related action action' := fun p q here =>
  ⟨congrArg (Except.map view) (agree p q here).1, (agree p q here).2⟩

/-- Where a view tells all results apart, the results are the same. -/
theorem AgreeBy.agree {action action' : Emit α} (agree : AgreeBy view related action action')
    (apart : ∀ a b, view a = view b → a = b) : Agree related action action' := by
  intro p q here
  obtain ⟨same, later⟩ := agree p q here
  refine ⟨?_, later⟩
  cases result : (action.outcome p).1 <;> cases result' : (action'.outcome q).1 <;>
    rw [result, result'] at same <;> simp only [Except.map, reduceCtorEq] at same
  · exact congrArg Except.error (Except.error.inj same)
  · exact congrArg Except.ok (apart _ _ (Except.ok.inj same))

theorem agreeBy_pure {a b : α} (same : view a = view b) :
    AgreeBy view related (pure a) (pure b) :=
  fun _ _ here => ⟨congrArg Except.ok same, here⟩

theorem agreeBy_bind {action action' : Emit α} {next next' : α → Emit β}
    (first : AgreeBy view related action action')
    (second : ∀ a b, view a = view b → AgreeBy other related (next a) (next' b)) :
    AgreeBy other related (action >>= next) (action' >>= next') := by
  intro p q here
  obtain ⟨same, later⟩ := first p q here
  simp only [outcome_bind]
  -- the results look the same, so both actions stop or both go on
  rcases ran : action.outcome p with ⟨fault | a, m⟩ <;>
    rcases ran' : action'.outcome q with ⟨fault' | b, m'⟩ <;>
    rw [ran, ran'] at same later <;>
    simp only [Except.map, reduceCtorEq, Except.ok.injEq, Except.error.injEq] at same
  · exact ⟨congrArg Except.error same, later⟩
  · exact second a b same m m' later

/-- An action with the same results before others. -/
theorem Agree.bind {action action' : Emit α} {next next' : α → Emit β}
    (first : Agree related action action')
    (second : ∀ a, AgreeBy other related (next a) (next' a)) :
    AgreeBy other related (action >>= next) (action' >>= next') :=
  agreeBy_bind (first.by id) fun a b same => by
    cases same
    exact second a

/-- An action whose results look the same before others that do not tell them apart. -/
theorem AgreeBy.bind {action action' : Emit α} {next next' : α → Emit β}
    (first : AgreeBy view related action action')
    (second : ∀ a b, view a = view b → Agree related (next a) (next' b)) :
    Agree related (action >>= next) (action' >>= next') :=
  AgreeBy.agree (agreeBy_bind first fun a b same => (second a b same).by id) fun _ _ same => same

theorem agreeBy_get {next next' : Pass → Emit α}
    (second : ∀ p q, related p q → AgreeBy view related (next p) (next' q)) :
    AgreeBy view related (get >>= next) (get >>= next') := by
  intro p q here
  simp only [outcome_bind, outcome_get]
  exact second p q here p q here

theorem agreeBy_mapM {ε : Type} (view : α → γ) {f g : ε → Emit α} {Fits : ε → ε → Prop}
    (each : ∀ {a b}, Fits a b → AgreeBy view related (f a) (g b)) {items others : List ε}
    (fits : List.Forall₂ Fits items others) :
    AgreeBy (List.map view) related (items.mapM f) (others.mapM g) := by
  induction fits with
  | nil => exact agreeBy_pure rfl
  | cons first _ ih =>
    rw [List.mapM_cons, List.mapM_cons]
    refine agreeBy_bind (each first) fun a b same => ?_
    exact agreeBy_bind ih fun results results' sames => agreeBy_pure (by simp [same, sames])

end Views

/-! ### Actions on names -/

variable {generator : Generator} {pairing : generator.Pairing}

theorem agree_note (level : Level) (message : String) :
    Agree (Pass.Alike pairing) (note level message) (note level message) :=
  agree_modify fun _ _ alike => { alike with log := by rw [alike.log] }

theorem agree_warn (message : String) :
    Agree (Pass.Alike pairing) (warn message) (warn message) := by
  refine agree_get fun p q alike => ?_
  rw [alike.block]
  exact agree_bind (agree_note _ _) fun _ =>
    agree_modify fun _ _ alike => { alike with warnings := by rw [alike.warnings] }

theorem agree_requireImport (path : Json) :
    Agree (Pass.Alike pairing) (requireImport path) (requireImport path) := by
  unfold requireImport
  split
  · exact agree_bind (agree_setting _) fun path =>
      agree_modify fun _ _ alike => { alike with sink := pairing.sinks.imports path alike.sink }
  · exact agree_pure ()

theorem agree_claim (candidate : String) :
    Agree (Pass.Alike pairing) (claim candidate) (claim candidate) := by
  refine agree_get fun p q alike => ?_
  simp only [Scope.claim, alike.names]
  refine agree_bind (agree_set { alike with names := rfl }) fun _ => ?_
  exact agree_ite (agree_bind (agree_note _ _) fun _ => agree_pure _) (agree_pure _)

theorem agree_scopeFor {owner owner' : Entity}
    (owners : generator.OwnersAlike pairing.owners owner owner') :
    Agree (Pass.Alike pairing) (scopeFor generator (some owner))
      (scopeFor generator (some owner')) := by
  refine agree_get fun p q alike => ?_
  simp only [Scope.scopeFor, alike.stem, alike.given owners.id, pairing.block owners.id,
    owners.symbol]
  exact agree_setting _

/-- The names of owners where one more name is given, and paired owners had the same name. -/
theorem lookup_given_cons {given given' : List (NodeId × String)} {i j i' j' : NodeId}
    (same : ∀ {i j}, pairing.owners i j → given.lookup i = given'.lookup j)
    (owners : pairing.owners i j) (nodes : pairing.nodes i' j') (name : String) :
    ((i', name) :: given).lookup i = ((j', name) :: given').lookup j := by
  have unique : i = i' ↔ j = j' := pairing.unique owners nodes
  by_cases here : i = i'
  · have there : j = j' := unique.mp here
    simp [here, there]
  · have elsewhere : ¬ j = j' := fun there => here (unique.mpr there)
    rw [List.lookup_cons, List.lookup_cons, beq_false_of_ne here, beq_false_of_ne elsewhere]
    exact same owners

/-- Alike nodes get one name. -/
theorem agree_register (kind : PendingKind) {node node' : PropertyNode} {owner owner' : Entity}
    (nodes : PropertyNode.Alike pairing.nodes node node')
    (owners : generator.OwnersAlike pairing.owners owner owner') :
    Agree (Pass.Alike pairing) (register generator kind node (some owner))
      (register generator kind node' (some owner')) := by
  unfold register
  rw [nodes.property.name, nodes.property.shape]
  refine agree_bind (agree_setting _) fun symbol => agree_get fun p q alike => ?_
  -- the tables are the same, so both nodes find a name in them, or both need a new one
  rw [alike.shapes]
  split
  · exact agree_bind (agree_note _ _) fun _ => agree_pure _
  · refine agree_bind (agree_scopeFor owners) fun lead => ?_
    refine agree_bind (agree_claim _) fun name => ?_
    refine agree_bind (agree_modify fun p q alike => ?_) fun _ => agree_pure _
    have pending : generator.PendingAlike pairing.nodes ⟨kind, name, node⟩ ⟨kind, name, node'⟩ :=
      ⟨rfl, rfl, nodes.id, by rw [nodes.property.name], nodes.property.shape⟩
    exact { alike with
      shapes := by rw [alike.shapes]
      given := fun owners => lookup_given_cons alike.given owners nodes.id name
      pending := List.rel_append alike.pending (.cons (pairing.waits pending) .nil) }

/-! ### Text -/

theorem agree_render (declaration : Code.Declaration) :
    Agree (Pass.Alike pairing) (render generator declaration) (render generator declaration) := by
  unfold render
  split
  · exact agree_pure _
  · exact agree_throw _

theorem agree_write (text : String) :
    Agree (Pass.Alike (.same generator)) (write text) (write text) := by
  refine agree_get fun p q alike => ?_
  have sinks : p.sink = q.sink := alike.sink
  rw [sinks]
  split
  · exact agree_set { alike with sink := rfl }
  · exact agree_throw _

theorem agree_writeTrimmed (text : String) :
    Agree (Pass.Alike (.same generator)) (writeTrimmed text) (writeTrimmed text) := by
  refine agree_get fun p q alike => ?_
  rw [alike.sections]
  have last : Agree (Pass.Alike (.same generator))
      (do write text; modify fun pass => { pass with sections := pass.sections + 1 })
      (do write text; modify fun pass => { pass with sections := pass.sections + 1 }) :=
    agree_bind (agree_write text) fun _ =>
      agree_modify fun _ _ alike => { alike with sections := by rw [alike.sections] }
  exact agree_ite (agree_bind (agree_write _) fun _ => last) last

theorem agree_declare (declaration : Code.Declaration) :
    Agree (Pass.Alike (.same generator)) (declare generator declaration)
      (declare generator declaration) := by
  refine agree_bind (agree_render declaration) fun text => ?_
  split
  · refine agree_bind (agree_writeTrimmed _) fun _ => agree_modify fun p q alike => ?_
    have sinks : p.sink = q.sink := alike.sink
    exact { alike with sink := congrArg (Sink.record · declaration) sinks }
  · exact agree_pure ()

end Emit

end HostBindings
