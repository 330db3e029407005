import HostBindings.Proofs.Emission.Declarations
import HostBindings.Proofs.Names.Table

/-!
# What a pass comes to

A pass names properties as it comes to them: those that are declared with the block, and, when the
declaration of a property is made, those one level below it. A property that shares the name of
another one is passed over, and so are all that stand behind a fault. This file says of every action
which properties it may come to, and that nothing but such a visit gives names to nested entities or
makes declarations wait. That holds of actions that fail too.

## Main definitions

* `Visit` — a property, and the entity it is declared for
* `Pass.Still` — what happens between two visits
* `Pass.Gives` — the visit of a property that gets a name
* `Pass.Visits` — properties that are come to in order, each of them at most once
* `Emit.Visiting` — the properties that an action may come to

## Main results

* `Pass.Visits.queues` — what waits more behind visits
* `Emit.visiting_register` — the one way to get a name
* `Generator.visiting_declareBlock` — a block comes to its fields and to the slots of its methods
* `Generator.visiting_declarePending` — a declaration that waits comes to one level below
-/

namespace HostBindings

open Api (Block PossibleValue)

/-- A property that is come to, and the entity it is declared for. -/
structure Visit where
  /-- The entity. -/
  owner : Entity
  /-- The property. -/
  node : PropertyNode

/-- If the declaration is an enumeration, the names of its members begin with its own. -/
def Code.Declaration.LeadsMembers : Code.Declaration → Prop
  | enumeration _ name _ members => ∀ member ∈ members, name.toList <+: member.name.toList
  | events .. | composite .. | function .. => True

/-- All enumerations that were written lead their members. -/
def Pass.LeadsMembers (pass : Pass) : Prop :=
  ∀ declaration ∈ pass.sink.declarations, declaration.LeadsMembers

/-- Names may be taken and declarations written, but no nested entity gets a name. -/
structure Pass.Still (p q : Pass) : Prop where
  /-- Of the names of the block, only the taken ones change. -/
  scope : q.scope = { p.scope with names := q.scope.names }
  /-- The record of what was declared stays. -/
  declared : q.declared = p.declared
  /-- Enumerations are written in order. -/
  leads : p.LeadsMembers → q.LeadsMembers

/-- A property that is come to gets a name: what the names below its owner begin with, its symbol,
and a number if that is taken. It waits for its declaration. -/
structure Pass.Gives (generator : Generator) (visit : Visit) (key : ShapeKey) (name : String)
    (p q : Pass) : Prop where
  /-- How the name is made. -/
  named : ∃ lead, p.scope.scopeFor generator.symbol (some visit.owner) = .ok lead ∧
    generator.symbol visit.node.property.info.name = .ok key.symbol ∧
    name = freshName p.scope.names (lead ++ key.symbol)
  /-- The name is taken and entered in the tables, and the property waits. -/
  scope : q.scope =
    { p.scope with
      names := p.scope.names ++ [name]
      shapes := p.scope.shapes ++ [(key, name)]
      given := (visit.node.id, name) :: p.scope.given
      pending := p.scope.pending ++ [⟨key.kind, name, visit.node⟩] }
  /-- Nothing is written. -/
  sink : q.sink = p.sink
  /-- The record of what was declared stays. -/
  declared : q.declared = p.declared

/-- Properties are come to in order. -/
inductive Pass.Visits (generator : Generator) : List Visit → Pass → Pass → Prop where
  /-- The end. -/
  | done {p : Pass} : Visits generator [] p p
  /-- Something else happens first. -/
  | still {visits : List Visit} {p q r : Pass} : p.Still q → Visits generator visits q r →
      Visits generator visits p r
  /-- The first property is passed over. -/
  | skip {visit : Visit} {rest : List Visit} {p q : Pass} : Visits generator rest p q →
      Visits generator (visit :: rest) p q
  /-- The first property gets a name. -/
  | give {visit : Visit} {rest : List Visit} {key : ShapeKey} {name : String} {p q r : Pass} :
      Pass.Gives generator visit key name p q → Visits generator rest q r →
      Visits generator (visit :: rest) p r

namespace Pass

variable {generator : Generator} {visits more : List Visit} {p q r : Pass}

/-- A change of neither names, nor record, nor declarations. -/
theorem Still.of_same (scope : q.scope = p.scope) (declared : q.declared = p.declared)
    (declarations : q.sink.declarations = p.sink.declarations) : p.Still q :=
  ⟨by rw [scope], declared, fun leads => by rwa [LeadsMembers, declarations]⟩

theorem Visits.trans (first : Visits generator visits p q) (second : Visits generator more q r) :
    Visits generator (visits ++ more) p r := by
  -- the induction goes along the first visits, up to where the second ones begin
  induction first with
  | done => exact second
  | still step _ ih => exact .still step (ih second)
  | skip _ ih => exact .skip (ih second)
  | give step _ ih => exact .give step (ih second)

/-- All properties may be passed over. -/
theorem Visits.none (visits : List Visit) (p : Pass) : Visits generator visits p p := by
  induction visits with
  | nil => exact .done
  | cons _ _ ih => exact .skip ih

/-- What a pass comes to is all that it makes wait, and nothing is declared on the way. -/
theorem Visits.queues (visited : Visits generator visits p q) :
    q.declared = p.declared ∧ ∃ queued : List Pending,
      q.scope.pending = p.scope.pending ++ queued ∧
      (queued.map (·.node)).Sublist (visits.map (·.node)) := by
  induction visited with
  | done => exact ⟨rfl, [], by simp, List.nil_sublist _⟩
  | still step _ ih =>
    obtain ⟨declared, queued, pending, sub⟩ := ih
    exact ⟨declared.trans step.declared, queued, by rw [pending, step.scope], sub⟩
  | skip _ ih =>
    obtain ⟨declared, queued, pending, sub⟩ := ih
    exact ⟨declared, queued, pending, sub.cons _⟩
  | @give visit _ key name _ _ _ step _ ih =>
    obtain ⟨declared, queued, pending, sub⟩ := ih
    refine ⟨declared.trans step.declared, ⟨key.kind, name, visit.node⟩ :: queued, ?_,
      sub.cons_cons _⟩
    rw [pending, step.scope]
    simp

end Pass

/-! ### What actions come to -/

namespace Emit

variable {α β : Type} {generator : Generator} {visits more : List Visit}

/-- An action comes to some of the given properties, in order, whether it fails or not. -/
def Visiting (generator : Generator) (visits : List Visit) (action : Emit α) : Prop :=
  ∀ p, Pass.Visits generator visits p (action.outcome p).2

/-- An action comes to no property. -/
abbrev Idle (generator : Generator) (action : Emit α) : Prop := Visiting generator [] action

theorem idle_pure (a : α) : Idle generator (pure a) := fun _ => .done

theorem idle_throw (fault : PassFault) : Idle generator (throw fault : Emit α) := fun _ => .done

/-- What comes behind may rely on how the first action succeeded. -/
theorem visiting_bind_of_runs {action : Emit α} {next : α → Emit β}
    (first : Visiting generator visits action)
    (second : ∀ p a m, Runs action p a m → Pass.Visits generator more m ((next a).outcome m).2) :
    Visiting generator (visits ++ more) (action >>= next) := by
  intro p
  have one := first p
  rw [outcome_bind]
  rcases ran : action.outcome p with ⟨fault | a, m⟩
  · -- behind a fault, nothing is come to
    rw [ran] at one
    exact one.trans (.none more m)
  · rw [ran] at one
    exact one.trans (second p a m ran)

theorem visiting_bind {action : Emit α} {next : α → Emit β}
    (first : Visiting generator visits action) (second : ∀ a, Visiting generator more (next a)) :
    Visiting generator (visits ++ more) (action >>= next) :=
  visiting_bind_of_runs first fun _ a m _ => second a m

theorem visiting_get {next : Pass → Emit α} (others : ∀ p, Visiting generator visits (next p)) :
    Visiting generator visits (get >>= next) :=
  fun p => others p p

theorem idle_modify {change : Pass → Pass} (still : ∀ p : Pass, p.Still (change p)) :
    Idle generator (modify change) :=
  fun p => .still (still p) .done

/-- An action may come to fewer properties. -/
theorem Visiting.append_left {action : Emit α} (lead : List Visit)
    (visiting : Visiting generator visits action) : Visiting generator (lead ++ visits) action :=
  fun p => (Pass.Visits.none lead p).trans (visiting p)

theorem Visiting.append_right {action : Emit α} (rest : List Visit)
    (visiting : Visiting generator visits action) : Visiting generator (visits ++ rest) action :=
  fun p => (visiting p).trans (.none rest _)

/-- What comes to nothing may come first. -/
theorem idle_bind {action : Emit α} {next : α → Emit β}
    (first : Idle generator action) (second : ∀ a, Visiting generator visits (next a)) :
    Visiting generator visits (action >>= next) :=
  visiting_bind first second

/-- What comes to nothing may come last. -/
theorem visiting_bind_idle {action : Emit α} {next : α → Emit β}
    (first : Visiting generator visits action) (second : ∀ a, Idle generator (next a)) :
    Visiting generator visits (action >>= next) := by
  rw [← List.append_nil visits]
  exact visiting_bind first second

theorem visiting_mapM {f : α → Emit β} {each : α → List Visit}
    (visiting : ∀ a, Visiting generator (each a) (f a)) (items : List α) :
    Visiting generator (items.flatMap each) (items.mapM f) := by
  induction items with
  | nil => exact idle_pure []
  | cons item rest ih =>
    rw [List.mapM_cons, List.flatMap_cons]
    exact visiting_bind (visiting item) fun _ => visiting_bind_idle ih fun _ => idle_pure _

/-! ### Actions that come to nothing -/

theorem idle_mapM {f : α → Emit β} (idle : ∀ a, Idle generator (f a)) (items : List α) :
    Idle generator (items.mapM f) := by
  have none := visiting_mapM idle items
  rwa [List.flatMap_eq_nil_iff.mpr fun _ _ => rfl] at none

theorem idle_forM {f : α → Emit PUnit} (idle : ∀ a, Idle generator (f a)) (items : List α) :
    Idle generator (items.forM f) := by
  induction items with
  | nil => exact idle_pure PUnit.unit
  | cons item rest ih => exact idle_bind (idle item) fun _ => ih

theorem idle_setting (result : Except UseFault α) : Idle generator (setting result) := by
  cases result with
  | error fault => exact idle_throw _
  | ok value => exact idle_pure value

theorem idle_note (level : Level) (message : String) : Idle generator (note level message) :=
  idle_modify fun _ => .of_same rfl rfl rfl

theorem idle_warn (message : String) : Idle generator (warn message) :=
  visiting_get fun _ => idle_bind (idle_note _ _) fun _ => idle_modify fun _ => .of_same rfl rfl rfl

theorem idle_claim (candidate : String) : Idle generator (claim candidate) := by
  intro p
  have still : p.Still ((claim candidate).outcome p).2 := by
    rw [outcome_claim]
    exact ⟨rfl, rfl, id⟩
  exact .still still .done

theorem idle_requireImport (path : Json) : Idle generator (requireImport path) := by
  unfold requireImport
  split
  · exact idle_bind (idle_setting _) fun _ => idle_modify fun _ => .of_same rfl rfl rfl
  · exact idle_pure _

theorem idle_write (text : String) : Idle generator (write text) := by
  intro p
  have still : p.Still ((write text).outcome p).2 := by
    simp only [write, outcome_bind, outcome_get]
    split
    next sink found =>
      simp only [Sink.write?, Option.ite_none_right_eq_some, Option.some.injEq] at found
      exact .of_same rfl rfl (by rw [← found.2]; rfl)
    next => exact .of_same rfl rfl rfl
  exact .still still .done

theorem idle_writeTrimmed (text : String) : Idle generator (writeTrimmed text) := by
  have count : Idle generator
      (modify fun pass : Pass => { pass with sections := pass.sections + 1 }) :=
    idle_modify fun _ => .of_same rfl rfl rfl
  refine visiting_get fun p => ?_
  split
  · exact idle_bind (idle_write _) fun _ => idle_bind (idle_write _) fun _ => count
  · exact idle_bind (idle_write _) fun _ => count

/-- A declaration is written; an enumeration has to lead its members. -/
theorem idle_declare {declaration : Code.Declaration} (leads : declaration.LeadsMembers) :
    Idle generator (declare generator declaration) := by
  refine idle_bind ?_ fun text => ?_
  · unfold render
    split
    · exact idle_pure _
    · exact idle_throw _
  · split
    · refine idle_bind (idle_writeTrimmed _) fun _ => idle_modify fun p => ?_
      -- the declaration that is recorded is the only one more
      refine ⟨rfl, rfl, fun before other member => ?_⟩
      rcases List.mem_append.mp member with old | new
      · exact before other old
      · rwa [List.mem_singleton.mp new]
    · exact idle_pure _

/-! ### Names -/

/-- A registration comes to its property: it shares a name, or gets one. -/
theorem visiting_register (kind : PendingKind) (node : PropertyNode) (owner : Entity) :
    Visiting generator [⟨owner, node⟩] (register generator kind node (some owner)) := by
  intro p
  generalize came : (register generator kind node (some owner)).outcome p = outcome
  cases came ▸ registers generator kind node (some owner) p with
  | fails fault => exact .none _ p
  | shares log spelt found =>
    -- the name of a property alike is shared, which is only noted
    have still : p.Still { p with log } := .of_same rfl rfl rfl
    exact .still still (.none _ _)
  | @gives symbol lead name log spelt new led claimed =>
    -- a new name is taken and entered, and the property waits
    have gives : p.Gives generator ⟨owner, node⟩ ⟨kind, symbol, node.property.shape⟩ name
        { p with scope := p.scope.entered ⟨kind, symbol, node.property.shape⟩ node name, log } :=
      ⟨⟨lead, led, spelt, claimed⟩, rfl, rfl, rfl⟩
    exact .give gives .done

end Emit

namespace Generator

open Emit (Idle Visiting visiting_bind visiting_bind_idle visiting_get idle_bind idle_pure
  idle_setting)

variable {generator : Generator}

/-! ### The parts of a declaration -/

theorem idle_useType (type : BindingType) : Idle generator (useType type) :=
  Emit.idle_forM Emit.idle_requireImport _

theorem visiting_typeNameOf (node : PropertyNode) (owner : Entity) :
    Visiting generator [⟨owner, node⟩] (generator.typeNameOf node (some owner)) := by
  have nested (kind : PendingKind) : Visiting generator [⟨owner, node⟩]
      (do return Code.TypeName.nested (← Emit.register generator kind node (some owner))) :=
    visiting_bind_idle (Emit.visiting_register _ _ _) fun _ => idle_pure _
  unfold typeNameOf
  split
  · exact nested .constants
  · split
    · have basic (type : BindingType) : Idle generator
          (do useType type; return Code.TypeName.basic type.name) :=
        idle_bind (idle_useType type) fun _ => idle_pure _
      exact (idle_bind (idle_setting _) basic).append_right _
    · exact nested .composite

theorem visiting_slotOf (node : PropertyNode) (owner : Entity) :
    Visiting generator [⟨owner, node⟩] (generator.slotOf node (some owner)) :=
  idle_bind (idle_setting _) fun _ =>
    visiting_bind_idle (visiting_typeNameOf node owner) fun _ => idle_pure _

/-- Nodes that are declared for an entity. -/
def visitsFor (owner : Entity) (nodes : List PropertyNode) : List Visit :=
  nodes.map (Visit.mk owner)

@[simp] theorem map_node_visitsFor (owner : Entity) (nodes : List PropertyNode) :
    (visitsFor owner nodes).map (·.node) = nodes := by
  rw [visitsFor, List.map_map]
  exact List.map_id nodes

theorem visiting_nodes {β : Type} {f : PropertyNode → Emit β} {owner : Entity}
    (each : ∀ node, Visiting generator [⟨owner, node⟩] (f node)) (nodes : List PropertyNode) :
    Visiting generator (visitsFor owner nodes) (nodes.mapM f) := by
  rw [visitsFor, List.map_eq_flatMap]
  exact Emit.visiting_mapM each nodes

theorem visiting_signatureOf (owner : Entity) (parameters : List PropertyNode)
    (result? : Option PropertyNode) :
    Visiting generator (visitsFor owner (parameters ++ result?.toList))
      (generator.signatureOf owner parameters result?) := by
  rw [visitsFor, List.map_append]
  refine visiting_bind (visiting_nodes (fun node => visiting_slotOf node owner) _) fun _ => ?_
  cases result? with
  | none => exact idle_pure _
  | some node => exact visiting_bind_idle (visiting_slotOf node owner) fun _ => idle_pure _

theorem visiting_fieldOf (owner : Entity) (node : PropertyNode) :
    Visiting generator [⟨owner, node⟩] (generator.fieldOf owner node) :=
  visiting_bind_idle (visiting_slotOf node owner) fun _ => idle_pure _

theorem visiting_methodFieldOf (parent : Entity) (node : MethodNode) :
    Visiting generator (visitsFor node.entity (slotNodes node))
      (generator.methodFieldOf parent node) := by
  refine visiting_bind_idle ?_ fun _ => idle_pure _
  exact visiting_bind_idle (visiting_signatureOf _ _ _) fun _ =>
    idle_bind (idle_setting _) fun _ => idle_pure _

theorem idle_hostHandle : Idle generator generator.hostHandle :=
  idle_bind (idle_setting _) fun _ => idle_bind (idle_useType _) fun _ => idle_pure _

theorem idle_checkedConstant (event : Api.Event) :
    Idle generator (generator.checkedConstant event) := by
  refine idle_bind ?_ fun _ => ?_
  · unfold checkEventName
    split
    · exact idle_pure _
    · split
      · exact Emit.idle_throw _
      · exact Emit.idle_warn _
  · exact idle_bind (idle_setting _) fun _ => idle_bind (idle_setting _) fun _ =>
      visiting_get fun _ => idle_bind (Emit.idle_claim _) fun _ => idle_pure _

/-! ### The declarations of a block -/

/-- What the declarations of a block come to: the fields, then the parameters and the result of
each method. -/
def blockVisits (block : Block) : List Visit :=
  visitsFor ⟨.block, block.info⟩ (blockProperties block) ++
    (blockMethods block).flatMap fun method => visitsFor method.entity (slotNodes method)

theorem idle_declareEvents (events : List Api.Event) :
    Idle generator (generator.declareEvents events) := by
  unfold declareEvents
  split
  · have making : Idle generator (generator.eventsDeclaration events) :=
      idle_bind (Emit.idle_mapM idle_checkedConstant _) fun _ => visiting_get fun _ => idle_pure _
    -- the declaration that was made has no members to lead
    refine Emit.visiting_bind_of_runs making fun p declaration m run => ?_
    simp only [eventsDeclaration, Emit.runs_bind, Emit.runs_get, Emit.runs_pure] at run
    obtain ⟨_, _, _, _, _, _, rfl, _⟩ := run
    refine Emit.idle_declare ?_ m
    exact trivial
  · exact idle_pure _

theorem visiting_structureOf (block : Block) :
    Visiting generator (blockVisits block)
      (generator.structureOf block (blockProperties block) (blockMethods block)) := by
  refine idle_bind idle_hostHandle fun _ => ?_
  refine visiting_bind (visiting_nodes (fun node => visiting_fieldOf _ node) _) fun _ => ?_
  exact visiting_bind_idle (Emit.visiting_mapM (fun method => visiting_methodFieldOf _ method) _)
    fun _ => visiting_get fun _ => idle_pure _

theorem visiting_declareBlock (block : Block) :
    Visiting generator (blockVisits block) (generator.declareBlock block) := by
  refine idle_bind ?_ fun _ => idle_bind (idle_declareEvents _) fun _ => ?_
  · unfold noteOmitted
    split
    · exact Emit.idle_note _ _
    · exact idle_pure _
  · rw [← List.append_nil (blockVisits block)]
    refine Emit.visiting_bind_of_runs (visiting_structureOf block) fun p declaration m run => ?_
    simp only [structureOf, Emit.runs_bind, Emit.runs_get, Emit.runs_pure] at run
    obtain ⟨_, _, _, _, _, _, _, _, _, _, _, _, rfl, _⟩ := run
    refine Emit.idle_declare ?_ m
    exact trivial

/-! ### Declarations that wait -/

/-- The name of a member begins with that of its enumeration. -/
theorem prefix_of_runs_memberOf {name : String} {quoted : Bool} {value : PossibleValue}
    {constant : Code.Constant} {p q : Pass}
    (run : Emit.Runs (generator.memberOf name quoted value) p constant q) :
    name.toList <+: constant.name.toList := by
  simp only [memberOf, Emit.runs_bind, Emit.runs_setting, Emit.runs_pure] at run
  obtain ⟨symbol, m, _, member, _, claimed, rfl, _⟩ := run
  have behind := (numbering_freshName m.scope.names (name ++ symbol)).prefix_toList
  rw [← (Emit.runs_claim.mp claimed).1, String.toList_append] at behind
  exact (List.prefix_append _ _).trans behind

theorem prefix_of_runs_members {name : String} {quoted : Bool} {values : List PossibleValue}
    {members : List Code.Constant} {p q : Pass}
    (run : Emit.Runs (values.mapM (generator.memberOf name quoted)) p members q) :
    ∀ member ∈ members, name.toList <+: member.name.toList := by
  induction values generalizing p members with
  | nil =>
    obtain ⟨rfl, -⟩ := Emit.runs_pure.mp (by simpa using run)
    simp
  | cons value rest ih =>
    obtain ⟨first, _, others, one, more, rfl⟩ := Emit.runs_mapM_cons.mp run
    exact List.forall_mem_cons.mpr ⟨prefix_of_runs_memberOf one, ih more⟩

/-- An enumeration that waits leads its members. -/
theorem leadsMembers_of_runs {pending : Pending} {declaration : Code.Declaration} {p q : Pass}
    (run : Emit.Runs (generator.pendingDeclaration pending) p declaration q) :
    declaration.LeadsMembers := by
  unfold pendingDeclaration at run
  split at run
  next =>
    simp only [enumerationOf, Emit.runs_bind, Emit.runs_pure] at run
    obtain ⟨_, _, _, members, _, mapped, rfl, _⟩ := run
    exact prefix_of_runs_members mapped
  next =>
    simp only [functionOf, Emit.runs_bind, Emit.runs_pure] at run
    obtain ⟨_, _, _, rfl, _⟩ := run
    trivial
  next => exact absurd run Emit.runs_throw
  next =>
    simp only [compositeOf, Emit.runs_bind, Emit.runs_pure] at run
    obtain ⟨_, _, _, _, _, _, rfl, _⟩ := run
    trivial

theorem idle_enumerationOf (pending : Pending) :
    Idle generator (generator.enumerationOf pending) := by
  refine idle_bind (idle_bind (idle_setting _) fun _ => ?_) fun _ => ?_
  · dsimp only
    split
    · exact idle_pure _
    · exact idle_pure _
    · exact idle_bind (Emit.idle_warn _) fun _ => idle_pure _
  · refine idle_bind (Emit.idle_mapM (fun value => ?_) _) fun _ => idle_pure _
    exact idle_bind (idle_setting _) fun _ => idle_bind (Emit.idle_claim _) fun _ => idle_pure _

/-- What waits comes to the nodes one level below it. -/
theorem visiting_pendingDeclaration (pending : Pending) :
    Visiting generator (visitsFor pending.node.entity pending.node.children)
      (generator.pendingDeclaration pending) := by
  rw [PropertyNode.children, visitsFor, List.map_append]
  unfold pendingDeclaration
  -- a structure comes to its properties, a function to its parameters, an enumeration to neither
  split
  · exact (idle_enumerationOf pending).append_right _
  · refine .append_left _ (visiting_bind_idle ?_ fun _ => idle_pure _)
    simpa [visitsFor] using visiting_signatureOf pending.node.entity pending.node.parameters none
  · exact (Emit.idle_throw _).append_right _
  · refine .append_right _ (idle_bind idle_hostHandle fun _ => ?_)
    exact visiting_bind_idle (visiting_nodes (fun node => visiting_fieldOf _ node) _)
      fun _ => idle_pure _

theorem visiting_declarePending (pending : Pending) :
    Visiting generator (visitsFor pending.node.entity pending.node.children)
      (generator.declarePending pending) := by
  rw [← List.append_nil (visitsFor _ _)]
  exact Emit.visiting_bind_of_runs (visiting_pendingDeclaration pending) fun _ _ m run =>
    Emit.idle_declare (leadsMembers_of_runs run) m

end Generator

end HostBindings
