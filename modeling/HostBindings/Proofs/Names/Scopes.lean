import HostBindings.Proofs.Emission.Rounds
import Mathlib.Data.List.Pairwise

/-!
# Nested names and their scopes

The name of a nested entity is made of its scope and its symbol: below the block itself the scope is
the stem of the block, for a parameter or a result of a method the stem and the symbol of the
method, and below a property that has a name, that name. Names are looked up by the place of the
owner while the declarations that wait are written, and each declaration adds more of them; a
property that shares the name of another one is not entered. So what has to be kept is an account of
places: those that have names, those below what waits, and those that are still to be come to are
all different.

## Main definitions

* `Generator.LeadOf` — what the name of a property begins with
* `Generator.Follows` — a name made of that and the symbol of the property
* `Generator.Scoped` — what holds of the names while a pass goes on
* `Generator.NamesFollow` — what holds of them at the end

## Main results

* `Generator.Scoped.visits`, `Generator.Scoped.drains` — what a pass keeps
* `Generator.Scoped.prefix_of_enclosing` — names begin with those of enclosing properties
* `Generator.names_follow_scopes`
-/

namespace HostBindings

open Api (Block)
open PropertyNode (Descends)

/-- The nodes below a node. -/
def PropertyNode.inside (node : PropertyNode) : List PropertyNode :=
  node.children.flatMap subtree

/-- The places of nodes. -/
def placesOf (nodes : List PropertyNode) : List (List Edge) := nodes.map (·.id.steps)

namespace Generator

variable {generator : Generator} {block : Block} {stem : String}
  {given more : List (NodeId × String)} {visit : Visit} {ahead : List Visit} {p q : Pass}

/-- What the name of a property begins with. `stem` is the stem of the block, and `given` has the
names of properties by their places. -/
inductive LeadOf (generator : Generator) (block : Block) (stem : String)
    (given : List (NodeId × String)) : PropertyNode → String → Prop where
  /-- A field of the block. -/
  | field {node : PropertyNode} : node ∈ blockProperties block →
      LeadOf generator block stem given node stem
  /-- A parameter or a result of a method. -/
  | slot {method : MethodNode} {node : PropertyNode} {symbol : String} :
      method ∈ blockMethods block → node ∈ slotNodes method →
      generator.symbol method.method.info.name = .ok symbol →
      LeadOf generator block stem given node (stem ++ symbol)
  /-- A field or a parameter of a property that has a name. -/
  | nested {parent node : PropertyNode} {name : String} : Descends (blockNodes block) parent →
      node ∈ parent.children → (parent.id, name) ∈ given →
      LeadOf generator block stem given node name

/-- The name at a place is made of what it begins with, the symbol of the property that stands
there, and nothing or a number behind. -/
def Follows (generator : Generator) (block : Block) (stem : String)
    (given : List (NodeId × String)) (entry : NodeId × String) : Prop :=
  ∃ node lead symbol, node.id = entry.1 ∧ generator.LeadOf block stem given node lead ∧
    generator.symbol node.property.info.name = .ok symbol ∧ Numbering (lead ++ symbol) entry.2

/-- The entity that a property is declared for is the one that it stands in. -/
inductive Owned (block : Block) (given : List (NodeId × String)) : Visit → Prop where
  /-- A field of the block. -/
  | field {node : PropertyNode} : node ∈ blockProperties block →
      Owned block given ⟨⟨.block, block.info⟩, node⟩
  /-- A parameter or a result of a method. -/
  | slot {method : MethodNode} {node : PropertyNode} : method ∈ blockMethods block →
      node ∈ slotNodes method → Owned block given ⟨method.entity, node⟩
  /-- A field or a parameter of a property that has a name. -/
  | nested {parent node : PropertyNode} {name : String} : Descends (blockNodes block) parent →
      node ∈ parent.children → (parent.id, name) ∈ given → Owned block given ⟨parent.entity, node⟩

/-- An entity that waits, or was declared, stands in the block and has its name. -/
def Known (block : Block) (given : List (NodeId × String)) (pending : Pending) : Prop :=
  Descends (blockNodes block) pending.node ∧ (pending.node.id, pending.name) ∈ given

theorem LeadOf.mono {node : PropertyNode} {lead : String} (subset : given ⊆ more)
    (leads : generator.LeadOf block stem given node lead) :
    generator.LeadOf block stem more node lead := by
  cases leads with
  | field member => exact .field member
  | slot member slot spelt => exact .slot member slot spelt
  | nested below child named => exact .nested below child (subset named)

theorem LeadOf.descends {node : PropertyNode} {lead : String}
    (leads : generator.LeadOf block stem given node lead) : Descends (blockNodes block) node := by
  cases leads with
  | field member => exact .root (List.mem_append_left _ member)
  | slot member slot _ =>
    exact .root (List.mem_append_right _ (List.mem_flatMap.mpr ⟨_, member, slot⟩))
  | nested below child _ => exact below.child child

theorem Follows.mono {entry : NodeId × String} (subset : given ⊆ more)
    (follows : generator.Follows block stem given entry) :
    generator.Follows block stem more entry := by
  obtain ⟨node, lead, symbol, place, leads, spelt, numbering⟩ := follows
  exact ⟨node, lead, symbol, place, leads.mono subset, spelt, numbering⟩

theorem Owned.mono (subset : given ⊆ more) (owned : Owned block given visit) :
    Owned block more visit := by
  cases owned with
  | field member => exact .field member
  | slot member slot => exact .slot member slot
  | nested below child named => exact .nested below child (subset named)

theorem Known.mono {pending : Pending} (subset : given ⊆ more) (known : Known block given pending) :
    Known block more pending :=
  ⟨known.1, subset known.2⟩

/-! ### Places in a block -/

/-- The properties that are declared with a block are apart. -/
theorem pairwise_blockNodes (block : Block) : (placesOf (blockNodes block)).Pairwise Apart := by
  have sub := (blockNodes_sublist block).map (·.id.steps)
  rw [List.map_map] at sub
  exact (List.pairwise_map.mpr (pairwise_reviewRoots block)).sublist sub

/-- Every place below them is listed once. -/
theorem nodup_blockNodes (block : Block) :
    (placesOf ((blockNodes block).flatMap PropertyNode.subtree)).Nodup := by
  have once : (places (reviewNodes block)).Nodup :=
    nodup_places (pairwise_reviewRoots block) fun root _ => nodup_nodePaths root.1 root.2
  have nodes : (reviewNodes block).map (·.2) =
      ((reviewRoots block).map (·.2)).flatMap PropertyNode.subtree := by
    rw [reviewNodes, List.map_flatMap, List.flatMap_map]
    exact List.flatMap_congr fun root _ => map_snd_nodePaths root.1 root.2
  have sub := ((blockNodes_sublist block).flatMap PropertyNode.subtree).map (·.id.steps)
  rw [← nodes, List.map_map] at sub
  exact once.sublist sub

/-- What stands in a block has a topmost node at its place or above. -/
theorem exists_root_of_descends {roots : List PropertyNode} {node : PropertyNode}
    (below : Descends roots node) : ∃ root ∈ roots, root.id.steps <+: node.id.steps := by
  induction below with
  | root member => exact ⟨_, member, List.prefix_refl _⟩
  | child _ member ih =>
    obtain ⟨root, rootMember, above⟩ := ih
    obtain ⟨edge, place⟩ := exists_edge_of_mem_children member
    exact ⟨root, rootMember, place ▸ above.trans (prefix_child _ edge)⟩

/-- Methods stand one step below the block. -/
theorem place_of_mem_blockMethods {method : MethodNode} (declared : method ∈ blockMethods block) :
    ∃ index, method.id = NodeId.block.child (.method index) ∨
      method.id = NodeId.block.child (.instanceMethod index) := by
  unfold blockMethods at declared
  split at declared
  · obtain ⟨⟨_, index⟩, -, rfl⟩ := List.mem_map.mp declared
    exact ⟨index, .inl rfl⟩
  · obtain ⟨⟨_, index⟩, -, rfl⟩ := List.mem_map.mp declared
    exact ⟨index, .inr rfl⟩
  · cases declared

/-- Properties that are declared with a block stand one step below it, at no place of a method, or
one step below a method. -/
theorem place_of_mem_blockNodes {root : PropertyNode} (member : root ∈ blockNodes block) :
    (∃ index, root.id = NodeId.block.child (.property index) ∨
      root.id = NodeId.block.child (.instanceProperty index)) ∨
    ∃ method ∈ blockMethods block, ∃ edge, root.id = method.id.child edge := by
  rcases List.mem_append.mp member with property | slot
  · refine .inl ?_
    unfold blockProperties at property
    split at property
    · obtain ⟨⟨_, index⟩, -, rfl⟩ := List.mem_map.mp property
      exact ⟨index, .inr rfl⟩
    · obtain ⟨⟨_, index⟩, -, rfl⟩ := List.mem_map.mp property
      exact ⟨index, .inl rfl⟩
  · obtain ⟨method, declared, slot⟩ := List.mem_flatMap.mp slot
    refine .inr ⟨method, declared, ?_⟩
    rcases List.mem_append.mp slot with parameter | last
    · obtain ⟨_, -, rfl⟩ := List.mem_map.mp parameter
      exact ⟨_, rfl⟩
    · obtain ⟨_, -, rfl⟩ := Option.map_eq_some_iff.mp (Option.mem_toList.mp last)
      exact ⟨_, rfl⟩

/-- No property stands at the place of the block. -/
theorem ne_block_of_descends {node : PropertyNode} (below : Descends (blockNodes block) node) :
    node.id ≠ .block := by
  intro same
  obtain ⟨root, member, above⟩ := exists_root_of_descends below
  rw [same] at above
  have empty : root.id.steps = [] := List.prefix_nil.mp above
  rcases place_of_mem_blockNodes member with ⟨_, place | place⟩ | ⟨_, -, _, place⟩ <;>
    simp [place, NodeId.child] at empty

/-- No property stands at the place of a method. -/
theorem ne_method_of_descends {node : PropertyNode} {method : MethodNode}
    (below : Descends (blockNodes block) node) (declared : method ∈ blockMethods block) :
    node.id ≠ method.id := by
  intro same
  obtain ⟨root, member, above⟩ := exists_root_of_descends below
  rw [same] at above
  obtain ⟨_, here⟩ := place_of_mem_blockMethods declared
  rcases place_of_mem_blockNodes member with ⟨_, place⟩ | ⟨other, otherDeclared, _, place⟩
  · rcases here with here | here <;> rcases place with place | place <;>
      simp [here, place, NodeId.child, NodeId.block] at above
  · -- a slot stands two steps below the block
    obtain ⟨_, there⟩ := place_of_mem_blockMethods otherDeclared
    have length := above.length_le
    rcases here with here | here <;> rcases there with there | there <;>
      simp [here, there, place, NodeId.child, NodeId.block] at length

/-! ### What a pass keeps -/

/-- While a pass goes on, with some properties ahead, its names follow their scopes. -/
structure Scoped (generator : Generator) (block : Block) (lead : String) (ahead : List Visit)
    (pass : Pass) : Prop where
  /-- The stem of the block. -/
  stem : pass.scope.stem = lead
  /-- The names by place are those of nested entities. -/
  allocated : pass.allocated = (pass.scope.given.map (·.2)).reverse
  /-- The places that have names, those below what waits, and those ahead are different. -/
  places : (pass.scope.given.map (·.1.steps) ++
    placesOf (pass.scope.pending.flatMap (·.node.inside)) ++
    placesOf (ahead.flatMap (·.node.subtree))).Nodup
  /-- The names follow their scopes. -/
  follows : ∀ entry ∈ pass.scope.given, generator.Follows block lead pass.scope.given entry
  /-- What waits or was declared is known. -/
  known : ∀ pending ∈ pass.declared ++ pass.scope.pending, Known block pass.scope.given pending
  /-- What is ahead is declared for the entity that it stands in. -/
  owned : ∀ visit ∈ ahead, Owned block pass.scope.given visit
  /-- The members of enumerations begin with their names. -/
  members : pass.LeadsMembers

namespace Scoped

/-- No place has two names. -/
theorem nodup_given (good : generator.Scoped block stem ahead p) :
    (p.scope.given.map (·.1)).Nodup := by
  refine List.Nodup.of_map NodeId.steps ?_
  rw [List.map_map]
  exact good.places.of_append_left.of_append_left

/-- Only properties that stand in the block have names. -/
theorem descends_of_mem (good : generator.Scoped block stem ahead p) {id : NodeId}
    (member : id ∈ p.scope.given.map (·.1)) :
    ∃ node, node.id = id ∧ Descends (blockNodes block) node := by
  obtain ⟨entry, entryMember, rfl⟩ := List.mem_map.mp member
  obtain ⟨node, _, _, place, leads, -⟩ := good.follows entry entryMember
  exact ⟨node, place, leads.descends⟩

/-- What the names below the owner of a property begin with is looked up rightly. -/
theorem leadOf_of_scopeFor {lead : String} (good : generator.Scoped block stem ahead p)
    (owned : Owned block p.scope.given visit)
    (found : p.scope.scopeFor generator.symbol (some visit.owner) = .ok lead) :
    generator.LeadOf block stem p.scope.given visit.node lead := by
  cases owned with
  -- the owner is the block, a method, which has no name, or a property that has one
  | field member =>
    simp only [Scope.scopeFor, if_true, Except.ok.injEq] at found
    rw [← found, good.stem]
    exact .field member
  | @slot method node declared slot =>
    have below : method.id ≠ .block := by
      obtain ⟨_, place | place⟩ := place_of_mem_blockMethods declared <;>
        simp [place, NodeId.child, NodeId.block]
    have unnamed : p.scope.given.lookup method.id = none := by
      refine lookup_eq_none_of_not_mem fun member => ?_
      obtain ⟨node, place, descends⟩ := good.descends_of_mem member
      exact ne_method_of_descends descends declared place
    simp only [Scope.scopeFor, MethodNode.entity, if_neg below, unnamed, good.stem] at found
    obtain ⟨symbol, spelt, same⟩ := bind_eq_ok_iff.mp found
    cases same
    exact .slot declared slot spelt
  | @nested parent node name below child named =>
    have looked := lookup_eq_some_of_mem good.nodup_given named
    simp only [Scope.scopeFor, PropertyNode.entity, if_neg (ne_block_of_descends below), looked,
      Except.ok.injEq] at found
    exact found ▸ .nested below child named

/-- Steps that give no names. -/
theorem still (good : generator.Scoped block stem ahead p) (step : p.Still q) :
    generator.Scoped block stem ahead q where
  stem := by rw [step.scope]; exact good.stem
  allocated := by rw [Pass.allocated, step.scope]; exact good.allocated
  places := by rw [step.scope]; exact good.places
  follows := by rw [step.scope]; exact good.follows
  known := by rw [step.scope, step.declared]; exact good.known
  owned := by rw [step.scope]; exact good.owned
  members := step.leads good.members

/-- A property is passed over. -/
theorem skip (good : generator.Scoped block stem (visit :: ahead) p) :
    generator.Scoped block stem ahead p :=
  { good with
    places := by
      refine good.places.sublist ((List.Sublist.refl _).append (.map _ ?_))
      exact List.sublist_append_right _ _
    owned := fun other member => good.owned other (List.mem_cons_of_mem _ member) }

/-- A property gets a name. -/
theorem give {key : ShapeKey} {name : String}
    (good : generator.Scoped block stem (visit :: ahead) p)
    (gives : p.Gives generator visit key name q) : generator.Scoped block stem ahead q := by
  have given : q.scope.given = (visit.node.id, name) :: p.scope.given := by rw [gives.scope]
  have subset : p.scope.given ⊆ q.scope.given := given ▸ List.subset_cons_self _ _
  obtain ⟨lead, found, spelt, named⟩ := gives.named
  have leads := good.leadOf_of_scopeFor (good.owned visit List.mem_cons_self) found
  constructor
  · rw [gives.scope]
    exact good.stem
  · have before := good.allocated
    rw [Pass.allocated] at before ⊢
    simp [gives.scope, before]
  · -- the place ahead gets a name, and those below it wait
    refine (List.Perm.nodup_iff ?_).mp good.places
    rw [gives.scope, List.flatMap_cons, subtree_eq]
    simp only [placesOf, List.map_cons, List.map_append, List.flatMap_append, List.flatMap_cons,
      List.flatMap_nil, List.append_nil, List.perm_iff_count, List.count_append, List.count_cons,
      PropertyNode.inside]
    intro place
    omega
  · -- the name is numbered from the lead of its place, and older names keep theirs
    rw [given]
    refine List.forall_mem_cons.mpr ⟨?_, fun entry member => ?_⟩
    · refine ⟨visit.node, lead, key.symbol, rfl, leads.mono (given ▸ subset), spelt, ?_⟩
      exact named ▸ numbering_freshName _ _
    · exact (good.follows entry member).mono (given ▸ subset)
  · intro pending member
    rw [gives.scope, gives.declared, ← List.append_assoc, List.mem_append, List.mem_singleton]
      at member
    rcases member with old | rfl
    · exact (good.known pending old).mono subset
    · exact ⟨leads.descends, given ▸ List.mem_cons_self⟩
  · exact fun other member =>
      (good.owned other (List.mem_cons_of_mem _ member)).mono subset
  · rw [Pass.LeadsMembers, gives.sink]
    exact good.members

/-- Properties are come to in order. -/
theorem visits (good : generator.Scoped block stem ahead p)
    (visited : Pass.Visits generator ahead p q) :
    generator.Scoped block stem [] q ∧ p.scope.given ⊆ q.scope.given := by
  induction visited with
  | done => exact ⟨good, List.Subset.refl _⟩
  | still step _ ih =>
    obtain ⟨last, subset⟩ := ih (good.still step)
    rw [step.scope] at subset
    exact ⟨last, subset⟩
  | skip _ ih => exact ih good.skip
  | give gives _ ih =>
    obtain ⟨last, subset⟩ := ih (good.give gives)
    rw [gives.scope] at subset
    exact ⟨last, List.Subset.trans (List.subset_cons_self _ _) subset⟩

/-- The first entity that waits is taken: what is one level below it is ahead. -/
theorem take {pending : Pending} {rest : List Pending} (good : generator.Scoped block stem [] p)
    (waiting : p.scope.pending = pending :: rest) :
    generator.Scoped block stem (visitsFor pending.node.entity pending.node.children)
      { p with scope := { p.scope with pending := rest } } := by
  have known : Known block p.scope.given pending := good.known pending (by simp [waiting])
  refine ⟨good.stem, good.allocated, ?_, good.follows, fun other member => ?_, ?_, good.members⟩
  · -- the places below the first one that waits are now ahead
    refine (List.Perm.nodup_iff ?_).mp good.places
    have inside : (visitsFor pending.node.entity pending.node.children).flatMap
        (·.node.subtree) = pending.node.inside := by
      rw [visitsFor, List.flatMap_map]
      rfl
    rw [inside, waiting]
    simp only [placesOf, List.flatMap_cons, List.flatMap_nil, List.map_append, List.map_nil,
      List.append_nil, List.perm_iff_count, List.count_append]
    intro place
    omega
  · refine good.known other ?_
    rw [waiting]
    exact (((List.sublist_cons_self _ _).append_left _).subset) member
  · intro visit member
    obtain ⟨child, childMember, rfl⟩ := List.mem_map.mp member
    exact .nested known.1 childMember known.2

/-- The rounds of declarations that wait. -/
theorem drains {emitted : List Pending} {result : Except PassFault Unit}
    (good : generator.Scoped block stem [] p) (drained : generator.Drains p emitted result q) :
    generator.Scoped block stem [] q := by
  -- a round that fails visits what is below its entity too, so both cases need this
  have visited {pending : Pending} {rest : List Pending} {answer : Except PassFault Unit}
      {p m : Pass} (good : generator.Scoped block stem [] p)
      (waiting : p.scope.pending = pending :: rest)
      (ran : (generator.declarePending pending).outcome
        { p with scope := { p.scope with pending := rest } } = (answer, m)) :
      generator.Scoped block stem [] m ∧ p.scope.given ⊆ m.scope.given := by
    have visiting : Emit.Visiting generator _ _ := visiting_declarePending pending
    have visits := visiting { p with scope := { p.scope with pending := rest } }
    rw [ran] at visits
    exact (good.take waiting).visits visits
  induction drained with
  | done => exact good
  | @round p m q pending rest _ _ waiting run _ ih =>
    obtain ⟨next, subset⟩ := visited good waiting run
    have known : Known block p.scope.given pending := good.known pending (by simp [waiting])
    refine ih { next with known := fun other member => ?_ }
    rcases List.mem_append.mp member with declared | waits
    · rcases List.mem_append.mp declared with old | new
      · exact next.known other (List.mem_append_left _ old)
      · rw [List.mem_singleton.mp new]
        exact known.mono subset
    · exact next.known other (List.mem_append_right _ waits)
  | failed waiting fails => exact (visited good waiting fails).1

/-- An entry at the same place is the same entry. -/
theorem name_eq_of_place_eq (good : generator.Scoped block stem ahead p)
    {entry other : NodeId × String} (member : entry ∈ p.scope.given)
    (otherMember : other ∈ p.scope.given) (same : entry.1.steps = other.1.steps) :
    entry = other :=
  List.inj_on_of_nodup_map good.places.of_append_left.of_append_left member otherMember same

/-- Names begin with the names of the properties that enclose theirs. -/
theorem prefix_of_enclosing (good : generator.Scoped block stem ahead p)
    {outer inner : NodeId × String} (outerMember : outer ∈ p.scope.given)
    (innerMember : inner ∈ p.scope.given) (encloses : outer.1.steps <+: inner.1.steps) :
    outer.2.toList <+: inner.2.toList := by
  -- from the inner place upwards, through the properties whose names are the scopes on the way
  induction length : inner.1.steps.length using Nat.strongRecOn generalizing inner with
  | _ count ih =>
    obtain ⟨node, lead, symbol, place, leads, -, numbering⟩ := good.follows inner innerMember
    have same (equal : outer.1.steps = inner.1.steps) : outer.2.toList <+: inner.2.toList :=
      good.name_eq_of_place_eq outerMember innerMember equal ▸ List.prefix_refl _
    -- no property encloses one that is declared with the block
    have topmost (member : node ∈ blockNodes block) : outer.1.steps = inner.1.steps := by
      obtain ⟨other, outerPlace, below⟩ :=
        good.descends_of_mem (List.mem_map_of_mem (f := (·.1)) outerMember)
      obtain ⟨root, rootMember, above⟩ := exists_root_of_descends below
      rw [outerPlace] at above
      rw [← place] at encloses ⊢
      have equal : root.id.steps = node.id.steps := by
        by_contra different
        exact ((pairwise_blockNodes block).forall (List.mem_map_of_mem rootMember)
          (List.mem_map_of_mem member) different).1 (above.trans encloses)
      exact (encloses.eq_of_length_le (equal ▸ above.length_le))
    cases leads with
    | field member => exact same (topmost (List.mem_append_left _ member))
    | slot declared slot _ =>
      exact same (topmost (List.mem_append_right _ (List.mem_flatMap.mpr ⟨_, declared, slot⟩)))
    | @nested parent _ _ below child named =>
      obtain ⟨edge, further⟩ := exists_edge_of_mem_children child
      rw [← place, further] at encloses
      -- the outer place is the inner one itself, or encloses the one above it
      rcases List.prefix_concat_iff.mp encloses with equal | within
      · exact same (by rw [equal, ← place, further]; rfl)
      · have shorter : parent.id.steps.length < count := by
          rw [← length, ← place, further]
          simp [NodeId.child]
        have first := ih _ shorter named within rfl
        have second := numbering.prefix_toList
        rw [String.toList_append] at second
        exact first.trans ((List.prefix_append _ _).trans second)

/-- All names begin with the stem of the block. -/
theorem stem_prefix (good : generator.Scoped block stem ahead p) {entry : NodeId × String}
    (member : entry ∈ p.scope.given) : stem.toList <+: entry.2.toList := by
  induction length : entry.1.steps.length using Nat.strongRecOn generalizing entry with
  | _ count ih =>
    obtain ⟨node, lead, symbol, place, leads, -, numbering⟩ := good.follows entry member
    have behind := numbering.prefix_toList
    rw [String.toList_append] at behind
    refine .trans ?_ ((List.prefix_append _ _).trans behind)
    cases leads with
    | field => exact List.prefix_refl _
    | slot => simp
    | @nested parent _ _ below child named =>
      obtain ⟨edge, further⟩ := exists_edge_of_mem_children child
      refine ih parent.id.steps.length ?_ named rfl
      rw [← length, ← place, further]
      simp [NodeId.child]

end Scoped

/-! ### Whole passes -/

/-- Before anything is generated, the properties that are declared with the block are ahead. -/
theorem scoped_start {start : Pass} {reserved : List String}
    (started : Pass.start generator block reserved = .ok start)
    (spelt : generator.stem block.info = .ok stem) :
    generator.Scoped block stem (blockVisits block) start := by
  obtain ⟨symbol, found, -, same, rfl⟩ := start_eq_ok.mp started
  obtain rfl : found = stem := Except.ok.inj (same.symm.trans spelt)
  have nodes : (blockVisits block).map (·.node) = blockNodes block := by
    rw [blockVisits, List.map_append, map_node_visitsFor, List.map_flatMap]
    simp only [map_node_visitsFor]
    rfl
  refine ⟨rfl, rfl, ?_, nofun, nofun, fun visit member => ?_, nofun⟩
  · have once := nodup_blockNodes block
    rw [← nodes, List.flatMap_map] at once
    exact once
  · rcases List.mem_append.mp member with field | slot
    · obtain ⟨node, fieldMember, rfl⟩ := List.mem_map.mp field
      exact .field fieldMember
    · obtain ⟨method, declared, slot⟩ := List.mem_flatMap.mp slot
      obtain ⟨node, slotMember, rfl⟩ := List.mem_map.mp slot
      exact .slot declared slotMember

/-- A pass keeps the names in their scopes, wherever it stops. -/
theorem scoped_emission {start : Pass}
    (good : generator.Scoped block stem (blockVisits block) start) :
    generator.Scoped block stem [] ((generator.emission block).outcome start).2 := by
  have visiting : Emit.Visiting generator _ _ := visiting_declareBlock block
  have visits := visiting start
  rw [emission, Emit.outcome_bind]
  rcases ran : (generator.declareBlock block).outcome start with ⟨fault | _, m⟩
  all_goals rw [ran] at visits
  · exact (good.visits visits).1
  · obtain ⟨emitted, result, q, drains, same⟩ :=
      generator.exists_drains (Nat.le_refl (waitingCount m))
    have drained : generator.drain.outcome m = _ := same
    dsimp only
    rw [drained]
    exact (good.visits visits).1.drains drains

/-- How the names of nested entities are made in a pass of a block with a certain stem. -/
structure NamesFollow (generator : Generator) (block : Block) (stem : String) (pass : Pass) :
    Prop where
  /-- The names that were given by place are those of the nested entities, in order. -/
  allocated : pass.allocated = (pass.scope.given.map (·.2)).reverse
  /-- No place has two names. -/
  once : (pass.scope.given.map (·.1)).Nodup
  /-- What was declared, or still waits, stands in the block and has its name. -/
  known : ∀ pending ∈ pass.declared ++ pass.scope.pending, Known block pass.scope.given pending
  /-- Each name is its scope and the symbol of its property, with nothing or a number behind. -/
  follows : ∀ entry ∈ pass.scope.given, generator.Follows block stem pass.scope.given entry
  /-- Each name begins with the stem. -/
  stem : ∀ name ∈ pass.allocated, stem.toList <+: name.toList
  /-- Each name begins with the names that were given on the way to its place. -/
  enclosing : ∀ outer ∈ pass.scope.given, ∀ inner ∈ pass.scope.given,
    outer.1.steps <+: inner.1.steps → outer.2.toList <+: inner.2.toList
  /-- The members of enumerations begin with the names of these. -/
  members : pass.LeadsMembers

/-- In every pass of a block, whether it succeeds or not and whatever names are taken before, the
names of nested entities are their scopes and their symbols, with nothing or with a number from two
on behind. So they begin with the stem of the block, and with the name of every nested entity around
them; and the members of enumerations begin with the names of these. -/
theorem names_follow_scopes {reserved : List String} {start : Pass}
    (started : Pass.start generator block reserved = .ok start) :
    ∃ stem, generator.stem block.info = .ok stem ∧
      generator.NamesFollow block stem ((generator.emission block).outcome start).2 := by
  obtain ⟨symbol, stem, -, spelt, -⟩ := start_eq_ok.mp started
  have good := scoped_emission (scoped_start started spelt)
  refine ⟨stem, spelt, good.allocated, good.nodup_given, good.known, good.follows, ?_, ?_,
    good.members⟩
  · intro name member
    rw [good.allocated, List.mem_reverse] at member
    obtain ⟨entry, entryMember, rfl⟩ := List.mem_map.mp member
    exact good.stem_prefix entryMember
  · exact fun outer outerMember inner innerMember encloses =>
      good.prefix_of_enclosing outerMember innerMember encloses

/-- The names that a pass gives to nested entities. -/
def allocatedNames? (settings : Settings) (block : Block) (reserved : List String) :
    Option (List String) := do
  let generator ← (ofSettings settings).toOption
  let start ← (Pass.start generator block reserved).toOption
  return ((generator.emission block).outcome start).2.allocated

/-- A module with a structure in which there is an enumeration, and with a method that has a
structure as its parameter. -/
def scopesSample : Block :=
  { info := { name := "menu", rawType := .single "Module" }
    properties :=
      [{ info := { name := "item", rawType := .single "Object" }
         properties :=
          [{ info := { name := "role", rawType := .single "String" }
             possibleValues := [{ value := "quit" }] }] }]
    methods :=
      [{ info := { name := "popup" }
         parameters := [{ info := { name := "options", rawType := .single "Object" } }] }] }

/-- The name of the structure is taken, so it has a number, and the enumeration in it follows. -/
theorem names_follow_scopes_sample :
    ∃ generator start, Generator.ofSettings {} = .ok generator ∧
      Pass.start generator scopesSample ["MenuItem"] = .ok start ∧
      ((generator.emission scopesSample).outcome start).2.allocated =
        ["MenuItem2", "MenuPopupOptions", "MenuItem2Role"] ∧
      ∃ stem, generator.stem scopesSample.info = .ok stem ∧
        generator.NamesFollow scopesSample stem
          ((generator.emission scopesSample).outcome start).2 := by
  have evaluated : allocatedNames? {} scopesSample ["MenuItem"] =
      some ["MenuItem2", "MenuPopupOptions", "MenuItem2Role"] := by decide +kernel
  simp only [allocatedNames?, Option.bind_eq_bind, Option.bind_eq_some_iff, toOption_eq_some_iff,
    Option.pure_def, Option.some.injEq] at evaluated
  obtain ⟨generator, configured, start, started, names⟩ := evaluated
  exact ⟨generator, start, configured, started, names, names_follow_scopes started⟩

end Generator

end HostBindings
