import HostBindings.Proofs.Emission.Drain
import HostBindings.Review
import Mathlib.Data.List.Nodup

/-!
# The properties of a block where they stand

The review of a block looks at all properties in it: those of the block and of its instances, the
parameters and results of all methods, the payloads of all events, and whatever is in them at any
depth. Here they are listed with the places where they stand, so that properties that look the same
can be told apart. Each place is listed once, and every node that a pass comes to is among them.

## Main definitions

* `Generator.reviewRoots` — the topmost properties of a block, with what their paths begin with
* `Generator.Reviewed` — the properties of a block at any depth, with their paths
* `Generator.reviewNodes` — a list of them

## Main results

* `Generator.mem_reviewNodes_iff` — all of them are listed, and nothing else
* `Generator.nodup_reviewNodes` — each of them once
* `Generator.map_reviewNodes` — the review goes through this list
* `Generator.exists_reviewed_of_descends` — a pass comes to no others
-/

namespace HostBindings

open Api (Block Event Property)

namespace Generator

/-! ### Properties at any depth -/

mutual
/-- A property that stands somewhere and the properties below it, with their paths. -/
def placedPaths (lead : String) (id : NodeId) : Property → List (String × PropertyNode)
  | ⟨info, properties, parameters, possibleValues⟩ =>
    let property : Property := ⟨info, properties, parameters, possibleValues⟩
    let path := lead ++ pathName property
    (path, ⟨id, property⟩) ::
      (placedListPaths (path ++ ".") id .property 0 properties ++
        placedListPaths (path ++ ".") id .parameter 0 parameters)

/-- Properties along edges from a node, from an index on, and those below them. -/
def placedListPaths (lead : String) (id : NodeId) (edge : Nat → Edge) (index : Nat) :
    List Property → List (String × PropertyNode)
  | [] => []
  | property :: rest =>
    placedPaths lead (id.child (edge index)) property ++
      placedListPaths lead id edge (index + 1) rest
end

/-- A node and the nodes below it, with their paths. -/
def nodePaths (lead : String) (node : PropertyNode) : List (String × PropertyNode) :=
  placedPaths lead node.id node.property

/-- The path of a node. -/
def nodePath (lead : String) (node : PropertyNode) : String := lead ++ pathName node.property

theorem placedListPaths_eq (lead : String) (id : NodeId) (edge : Nat → Edge) (index : Nat)
    (properties : List Property) :
    placedListPaths lead id edge index properties =
      (properties.zipIdx index).flatMap fun entry =>
        placedPaths lead (id.child (edge entry.2)) entry.1 := by
  induction properties generalizing index with
  | nil => rfl
  | cons property rest ih => rw [placedListPaths, ih, List.zipIdx_cons, List.flatMap_cons]

/-- A node comes first, then what is below it. -/
theorem nodePaths_eq (lead : String) (node : PropertyNode) :
    nodePaths lead node =
      (nodePath lead node, node) ::
        node.children.flatMap (nodePaths (nodePath lead node ++ ".")) := by
  obtain ⟨id, info, properties, parameters, possibleValues⟩ := node
  have below (edge : Nat → Edge) (lead : String) (listed : List Property) :
      placedListPaths lead id edge 0 listed =
        (PropertyNode.below id edge listed).flatMap (nodePaths lead) := by
    rw [placedListPaths_eq, PropertyNode.below, List.flatMap_map]
    rfl
  rw [nodePaths, placedPaths, below, below, ← List.flatMap_append]
  rfl

theorem listPaths_eq (lead : String) (properties : List Property) :
    listPaths lead properties = properties.flatMap (propertyPaths lead) := by
  induction properties with
  | nil => rfl
  | cons property rest ih => rw [listPaths, ih, List.flatMap_cons]

theorem listPaths_append (lead : String) (properties more : List Property) :
    listPaths lead (properties ++ more) = listPaths lead properties ++ listPaths lead more := by
  rw [listPaths_eq, listPaths_eq, listPaths_eq, List.flatMap_append]

theorem propertyPaths_eq (lead : String) (node : PropertyNode) :
    propertyPaths lead node.property =
      (nodePath lead node, node.property) ::
        (node.children.map (·.property)).flatMap (propertyPaths (nodePath lead node ++ ".")) := by
  rw [PropertyNode.children, List.map_append, PropertyNode.properties, PropertyNode.parameters,
    map_property_below, map_property_below, List.flatMap_append]
  obtain ⟨id, info, properties, parameters, possibleValues⟩ := node
  rw [propertyPaths, listPaths_eq, listPaths_eq]
  rfl

/-- A node one level below stands one edge further. -/
theorem exists_edge_of_mem_children {node child : PropertyNode} (member : child ∈ node.children) :
    ∃ edge, child.id = node.id.child edge := by
  rcases List.mem_append.mp member with field | parameter
  · obtain ⟨_, -, rfl⟩ := List.mem_map.mp field
    exact ⟨_, rfl⟩
  · obtain ⟨_, -, rfl⟩ := List.mem_map.mp parameter
    exact ⟨_, rfl⟩

/-- A node has more properties than one below it. -/
theorem nodeCount_lt_of_mem_children {node child : PropertyNode} (member : child ∈ node.children) :
    nodeCount child.property < nodeCount node.property := by
  have sub : [child.property].Sublist (node.children.map (·.property)) :=
    List.singleton_sublist.mpr (List.mem_map_of_mem member)
  have below := nodeCounts_le_of_sublist sub
  have whole := nodeCounts_children node
  simp only [nodeCounts] at below
  omega

/-- What holds of a node if it holds of those below it holds of every node. -/
theorem induction_below {holds : PropertyNode → Prop}
    (step : ∀ node, (∀ child ∈ node.children, holds child) → holds node) (node : PropertyNode) :
    holds node := by
  induction size : nodeCount node.property using Nat.strongRecOn generalizing node with
  | _ size ih =>
    refine step node fun child member => ih _ ?_ child rfl
    rw [← size]
    exact nodeCount_lt_of_mem_children member

/-- An entry without its place. -/
def unplaced (entry : String × PropertyNode) : String × Property := (entry.1, entry.2.property)

/-- Without the places, these are the paths that the review goes through. -/
theorem map_nodePaths (lead : String) (node : PropertyNode) :
    (nodePaths lead node).map unplaced = propertyPaths lead node.property := by
  induction node using induction_below generalizing lead with
  | step node ih =>
    rw [nodePaths_eq, propertyPaths_eq, List.map_cons, List.map_flatMap, List.flatMap_map,
      List.flatMap_congr fun child member => ih child member _]
    rfl

/-! ### Places -/

/-- Two places such that neither is below the other, nor the same. -/
def Apart (first second : List Edge) : Prop := ¬ first <+: second ∧ ¬ second <+: first

instance : Std.Symm Apart := ⟨fun _ _ apart => ⟨apart.2, apart.1⟩⟩

theorem Apart.ne {first second : List Edge} (apart : Apart first second) : first ≠ second := by
  rintro rfl
  exact apart.1 (List.prefix_refl _)

/-- What is below places apart is apart. -/
theorem Apart.below {first second one two : List Edge} (apart : Apart first second)
    (firstLeads : first <+: one) (secondLeads : second <+: two) : Apart one two := by
  constructor
  · exact fun within => (List.prefix_or_prefix_of_prefix (firstLeads.trans within)
      secondLeads).elim apart.1 apart.2
  · exact fun within => (List.prefix_or_prefix_of_prefix firstLeads
      (secondLeads.trans within)).elim apart.1 apart.2

/-- Different edges from a node lead to places apart. -/
theorem apart_child {id : NodeId} {edge other : Edge} (different : edge ≠ other) :
    Apart (id.child edge).steps (id.child other).steps := by
  constructor
  · intro within
    have same := within.eq_of_length (by simp [NodeId.child])
    exact different (by simpa [NodeId.child] using same)
  · intro within
    have same := within.eq_of_length (by simp [NodeId.child])
    exact different.symm (by simpa [NodeId.child] using same)

theorem prefix_child (id : NodeId) (edge : Edge) : id.steps <+: (id.child edge).steps :=
  List.prefix_append _ _

/-- The places of entries. -/
def places (entries : List (String × PropertyNode)) : List (List Edge) :=
  entries.map (·.2.id.steps)

/-- All nodes of a list are below the node that it starts from. -/
theorem prefix_of_mem_nodePaths {lead : String} {node : PropertyNode}
    {entry : String × PropertyNode} (member : entry ∈ nodePaths lead node) :
    node.id.steps <+: entry.2.id.steps := by
  induction node using induction_below generalizing lead with
  | step node ih =>
    rw [nodePaths_eq] at member
    rcases List.mem_cons.mp member with rfl | below
    · exact List.prefix_refl _
    · obtain ⟨child, childMember, inside⟩ := List.mem_flatMap.mp below
      obtain ⟨edge, place⟩ := exists_edge_of_mem_children childMember
      have lower := ih child childMember inside
      rw [place] at lower
      exact (prefix_child _ _).trans lower

/-- Nodes apart have no place below them in common. -/
theorem nodup_places {roots : List (String × PropertyNode)}
    (apart : roots.Pairwise fun one two => Apart one.2.id.steps two.2.id.steps)
    (each : ∀ root ∈ roots, (places (nodePaths root.1 root.2)).Nodup) :
    (places (roots.flatMap fun root => nodePaths root.1 root.2)).Nodup := by
  rw [places, List.map_flatMap, List.nodup_flatMap]
  refine ⟨each, apart.imp fun {one two} different => ?_⟩
  intro place first second
  obtain ⟨entry, inside, rfl⟩ := List.mem_map.mp first
  obtain ⟨other, within, same⟩ := List.mem_map.mp second
  exact (different.below (prefix_of_mem_nodePaths inside) (prefix_of_mem_nodePaths within)).ne
    same.symm

/-- Items along edges from a node are apart. -/
theorem pairwise_zipIdx {α : Type} {edge : Nat → Edge} (injective : Function.Injective edge)
    (items : List α) :
    items.zipIdx.Pairwise fun one two => edge one.2 ≠ edge two.2 := by
  have indices : (items.zipIdx.map Prod.snd).Nodup := by
    rw [List.zipIdx_map_snd]
    exact List.nodup_range'
  exact (List.pairwise_map.mp indices).imp fun different => injective.ne different

theorem pairwise_below {edge : Nat → Edge} (injective : Function.Injective edge) (id : NodeId)
    (properties : List Property) :
    (PropertyNode.below id edge properties).Pairwise fun one two =>
      Apart one.id.steps two.id.steps :=
  List.pairwise_map.mpr ((pairwise_zipIdx injective properties).imp apart_child)

theorem pairwise_children (node : PropertyNode) :
    node.children.Pairwise fun one two => Apart one.id.steps two.id.steps := by
  refine List.pairwise_append.mpr ⟨pairwise_below (fun _ _ => Edge.property.inj) _ _,
    pairwise_below (fun _ _ => Edge.parameter.inj) _ _, fun field member other otherMember => ?_⟩
  obtain ⟨_, -, rfl⟩ := List.mem_map.mp member
  obtain ⟨_, -, rfl⟩ := List.mem_map.mp otherMember
  exact apart_child nofun

/-- Below a node, every place is listed once. -/
theorem nodup_nodePaths (lead : String) (node : PropertyNode) :
    (places (nodePaths lead node)).Nodup := by
  induction node using induction_below generalizing lead with
  | step node ih =>
    have below :
        (places (node.children.flatMap (nodePaths (nodePath lead node ++ ".")))).Nodup := by
      have roots := nodup_places
        (List.pairwise_map.mpr (pairwise_children node) :
          (node.children.map (Prod.mk (nodePath lead node ++ "."))).Pairwise fun one two =>
            Apart one.2.id.steps two.2.id.steps)
        (List.forall_mem_map.mpr fun child member => ih child member _)
      rwa [List.flatMap_map] at roots
    rw [nodePaths_eq, places, List.map_cons]
    refine List.nodup_cons.mpr ⟨fun again => ?_, below⟩
    -- a place below has at least one edge more
    obtain ⟨entry, inside, same⟩ := List.mem_map.mp again
    obtain ⟨child, member, within⟩ := List.mem_flatMap.mp inside
    obtain ⟨edge, place⟩ := exists_edge_of_mem_children member
    have length := (prefix_of_mem_nodePaths within).length_le
    rw [place, same] at length
    simp only [NodeId.child, List.length_append, List.length_singleton] at length
    omega

/-! ### The topmost properties -/

/-- Items of a block along edges from it, each with its topmost properties and with what their paths
begin with. -/
def rootsAlong {α : Type} (edge : Nat → Edge) (roots : NodeId → α → String × List PropertyNode)
    (items : List α) : List (Edge × String × List PropertyNode) :=
  items.zipIdx.map fun (item, index) => (edge index, roots (NodeId.block.child (edge index)) item)

/-- A property of a block is itself a topmost one. -/
def propertyRoots (id : NodeId) (property : Property) : String × List PropertyNode :=
  ("", [⟨id, property⟩])

/-- Those of a method are its parameters and its result. -/
def methodRoots (id : NodeId) (method : Api.Method) : String × List PropertyNode :=
  (method.info.name ++ ".", slotNodes ⟨id, method⟩)

/-- Those of an event are its payload. -/
def eventRoots (id : NodeId) (event : Event) : String × List PropertyNode :=
  (event.info.name ++ ".", PropertyNode.below id .payload event.returns)

/-- The properties, methods and events of a block and of its instances, and the static methods. -/
def reviewMembers (block : Block) : List (Edge × String × List PropertyNode) :=
  rootsAlong .property propertyRoots block.properties ++
    rootsAlong .instanceProperty propertyRoots block.instanceProperties ++
    rootsAlong .method methodRoots block.methods ++
    rootsAlong .instanceMethod methodRoots block.instanceMethods ++
    rootsAlong .staticMethod methodRoots block.staticMethods ++
    rootsAlong .event eventRoots block.events ++
    rootsAlong .instanceEvent eventRoots block.instanceEvents

/-- The topmost properties of a block, with what their paths begin with. -/
def reviewRoots (block : Block) : List (String × PropertyNode) :=
  (reviewMembers block).flatMap fun (_, lead, nodes) => nodes.map (Prod.mk lead)

/-- The properties of a block at any depth, with their paths. -/
inductive Reviewed (block : Block) : String → PropertyNode → Prop where
  /-- A topmost one. -/
  | root {lead : String} {node : PropertyNode} : (lead, node) ∈ reviewRoots block →
      Reviewed block (nodePath lead node) node
  /-- A field or a parameter of another one. -/
  | child {path : String} {node child : PropertyNode} : Reviewed block path node →
      child ∈ node.children → Reviewed block (nodePath (path ++ ".") child) child

/-- A list of the properties of a block at any depth, with their paths. -/
def reviewNodes (block : Block) : List (String × PropertyNode) :=
  (reviewRoots block).flatMap fun root => nodePaths root.1 root.2

variable {block : Block}

/-- The paths of nodes in order are those of their properties. -/
theorem map_flatMap_nodePaths (lead : String) (nodes : List PropertyNode) :
    (nodes.flatMap (nodePaths lead)).map unplaced = listPaths lead (nodes.map (·.property)) := by
  rw [List.map_flatMap, listPaths_eq, List.flatMap_map]
  exact List.flatMap_congr fun node _ => map_nodePaths lead node

theorem map_property_slotNodes (node : MethodNode) :
    (slotNodes node).map (·.property) = node.method.parameters ++ node.method.returns.toList := by
  rw [slotNodes, List.map_append, MethodNode.parameters, map_property_below, MethodNode.result?]
  cases node.method.returns <;> rfl

theorem map_rootsAlong {α : Type} (edge : Nat → Edge)
    (roots : NodeId → α → String × List PropertyNode) (paths : α → List (String × Property))
    (each : ∀ id item, listPaths (roots id item).1 ((roots id item).2.map (·.property)) =
      paths item) (items : List α) :
    ((rootsAlong edge roots items).flatMap fun entry =>
        entry.2.2.flatMap (nodePaths entry.2.1)).map unplaced = items.flatMap paths := by
  have entries : (rootsAlong edge roots items).map (fun entry =>
      (entry.2.2.flatMap (nodePaths entry.2.1)).map unplaced) =
        (items.zipIdx.map Prod.fst).map paths := by
    rw [rootsAlong, List.map_map, List.map_map]
    refine List.map_congr_left fun entry _ => ?_
    exact (map_flatMap_nodePaths _ _).trans (each _ _)
  rw [List.map_flatMap, List.flatMap_def, entries, List.zipIdx_map_fst, ← List.flatMap_def]

/-- The list is the one that the review goes through. -/
theorem map_reviewNodes (block : Block) : (reviewNodes block).map unplaced = blockPaths block := by
  have nodes : reviewNodes block = (reviewMembers block).flatMap fun entry =>
      entry.2.2.flatMap (nodePaths entry.2.1) := by
    rw [reviewNodes, reviewRoots, List.flatMap_assoc]
    exact List.flatMap_congr fun entry _ => List.flatMap_map ..
  have properties (edge : Nat → Edge) (properties : List Property) :=
    map_rootsAlong edge propertyRoots (propertyPaths "")
      (fun _ _ => by simp [propertyRoots, listPaths]) properties
  have methods (edge : Nat → Edge) (methods : List Api.Method) :=
    map_rootsAlong edge methodRoots
      (fun method => listPaths (method.info.name ++ ".") method.parameters ++
        listPaths (method.info.name ++ ".") method.returns.toList)
      (fun _ _ => by rw [methodRoots, map_property_slotNodes, listPaths_append]) methods
  have events (edge : Nat → Edge) (events : List Event) :=
    map_rootsAlong edge eventRoots (fun event => listPaths (event.info.name ++ ".") event.returns)
      (fun _ _ => by rw [eventRoots, map_property_below]) events
  simp only [nodes, reviewMembers, List.flatMap_append, List.map_append, properties, methods,
    events, blockPaths, listPaths_eq, List.append_assoc]

theorem mem_nodePaths_self (lead : String) (node : PropertyNode) :
    (nodePath lead node, node) ∈ nodePaths lead node := by
  rw [nodePaths_eq]
  exact List.mem_cons_self

/-- What is below a listed node is listed. -/
theorem mem_nodePaths_child {lead path : String} {root node child : PropertyNode}
    (listed : (path, node) ∈ nodePaths lead root) (member : child ∈ node.children) :
    (nodePath (path ++ ".") child, child) ∈ nodePaths lead root := by
  induction root using induction_below generalizing lead with
  | step root ih =>
    rw [nodePaths_eq] at listed ⊢
    refine List.mem_cons_of_mem _ (List.mem_flatMap.mpr ?_)
    rcases List.mem_cons.mp listed with same | below
    · cases same
      exact ⟨child, member, mem_nodePaths_self _ _⟩
    · obtain ⟨other, otherMember, inside⟩ := List.mem_flatMap.mp below
      exact ⟨other, otherMember, ih other otherMember inside⟩

theorem reviewed_of_mem_nodePaths {lead path : String} {root node : PropertyNode}
    (start : Reviewed block (nodePath lead root) root)
    (listed : (path, node) ∈ nodePaths lead root) :
    Reviewed block path node := by
  induction root using induction_below generalizing lead with
  | step root ih =>
    rw [nodePaths_eq] at listed
    rcases List.mem_cons.mp listed with same | below
    · cases same
      exact start
    · obtain ⟨child, member, inside⟩ := List.mem_flatMap.mp below
      exact ih child member (start.child member) inside

/-- All properties of a block are listed, and nothing else. -/
theorem mem_reviewNodes_iff {path : String} {node : PropertyNode} :
    (path, node) ∈ reviewNodes block ↔ Reviewed block path node := by
  constructor
  · intro listed
    obtain ⟨root, member, inside⟩ := List.mem_flatMap.mp listed
    exact reviewed_of_mem_nodePaths (.root member) inside
  · intro reviewed
    induction reviewed with
    | root member => exact List.mem_flatMap.mpr ⟨_, member, mem_nodePaths_self _ _⟩
    | child _ member ih =>
      obtain ⟨root, rootMember, inside⟩ := List.mem_flatMap.mp ih
      exact List.mem_flatMap.mpr ⟨root, rootMember, mem_nodePaths_child inside member⟩

/-! ### Places of the topmost properties -/

/-- Edges along which items of a block stand are different. -/
theorem map_fst_rootsAlong {α : Type} (edge : Nat → Edge)
    (roots : NodeId → α → String × List PropertyNode) (items : List α) :
    (rootsAlong edge roots items).map Prod.fst = (List.range items.length).map edge := by
  have indices : items.zipIdx.map Prod.snd = List.range items.length := by
    rw [List.zipIdx_map_snd, List.range_eq_range']
  rw [rootsAlong, List.map_map, ← indices, List.map_map]
  rfl

/-- Edges of one more kind. -/
theorem nodup_append_edges {edges : List Edge} {edge : Nat → Edge} (count : Nat)
    (nodup : edges.Nodup) (injective : Function.Injective edge)
    (fresh : ∀ index, edge index ∉ edges) :
    (edges ++ (List.range count).map edge).Nodup := by
  refine nodup.append (List.nodup_range.map injective) ?_
  rw [List.disjoint_right, List.forall_mem_map]
  exact fun index _ => fresh index

/-- No two items of a block stand along one edge. -/
theorem nodup_edges (block : Block) : ((reviewMembers block).map Prod.fst).Nodup := by
  simp only [reviewMembers, List.map_append, map_fst_rootsAlong]
  have properties : ((List.range block.properties.length).map Edge.property).Nodup :=
    List.nodup_range.map fun _ _ => Edge.property.inj
  have fields := nodup_append_edges block.instanceProperties.length properties
    (fun _ _ => Edge.instanceProperty.inj) (by simp)
  have methods := nodup_append_edges block.methods.length fields
    (fun _ _ => Edge.method.inj) (by simp)
  have calls := nodup_append_edges block.instanceMethods.length methods
    (fun _ _ => Edge.instanceMethod.inj) (by simp)
  have statics := nodup_append_edges block.staticMethods.length calls
    (fun _ _ => Edge.staticMethod.inj) (by simp)
  have events := nodup_append_edges block.events.length statics
    (fun _ _ => Edge.event.inj) (by simp)
  exact nodup_append_edges block.instanceEvents.length events
    (fun _ _ => Edge.instanceEvent.inj) (by simp)

/-- Topmost properties of an item: they are below its place, and apart. -/
structure WellPlaced (id : NodeId) (nodes : List PropertyNode) : Prop where
  /-- They are below the item. -/
  below : ∀ node ∈ nodes, id.steps <+: node.id.steps
  /-- They are apart. -/
  apart : nodes.Pairwise fun one two => Apart one.id.steps two.id.steps

theorem prefix_of_mem_below {id : NodeId} {edge : Nat → Edge} {properties : List Property} :
    ∀ node ∈ PropertyNode.below id edge properties, id.steps <+: node.id.steps := by
  intro node member
  obtain ⟨_, -, rfl⟩ := List.mem_map.mp member
  exact prefix_child _ _

theorem wellPlaced_propertyRoots (id : NodeId) (property : Property) :
    WellPlaced id (propertyRoots id property).2 :=
  ⟨by simp [propertyRoots], List.pairwise_singleton _ _⟩

theorem wellPlaced_methodRoots (id : NodeId) (method : Api.Method) :
    WellPlaced id (methodRoots id method).2 := by
  have result : ∀ node ∈ (MethodNode.mk id method).result?.toList, node.id = id.child .result := by
    intro node member
    obtain ⟨_, -, rfl⟩ := Option.map_eq_some_iff.mp (Option.mem_toList.mp member)
    rfl
  constructor
  · intro node member
    rcases List.mem_append.mp member with parameter | last
    · exact prefix_of_mem_below node parameter
    · rw [result node last]
      exact prefix_child _ _
  · refine List.pairwise_append.mpr ⟨pairwise_below (fun _ _ => Edge.parameter.inj) _ _, ?_, ?_⟩
    · cases (MethodNode.mk id method).result? <;> simp
    · intro parameter member last lastMember
      obtain ⟨_, -, rfl⟩ := List.mem_map.mp member
      rw [result last lastMember]
      exact apart_child nofun

theorem wellPlaced_eventRoots (id : NodeId) (event : Event) :
    WellPlaced id (eventRoots id event).2 :=
  ⟨prefix_of_mem_below, pairwise_below (fun _ _ => Edge.payload.inj) _ _⟩

theorem wellPlaced_reviewMembers (block : Block) :
    ∀ entry ∈ reviewMembers block, WellPlaced (NodeId.block.child entry.1) entry.2.2 := by
  have along {α : Type} {edge : Nat → Edge} {roots : NodeId → α → String × List PropertyNode}
      (each : ∀ id item, WellPlaced id (roots id item).2) (items : List α) :
      ∀ entry ∈ rootsAlong edge roots items, WellPlaced (NodeId.block.child entry.1) entry.2.2 := by
    intro entry member
    obtain ⟨_, -, rfl⟩ := List.mem_map.mp member
    exact each _ _
  simp only [reviewMembers, List.forall_mem_append]
  exact ⟨⟨⟨⟨⟨⟨along wellPlaced_propertyRoots _, along wellPlaced_propertyRoots _⟩,
    along wellPlaced_methodRoots _⟩, along wellPlaced_methodRoots _⟩,
    along wellPlaced_methodRoots _⟩, along wellPlaced_eventRoots _⟩,
    along wellPlaced_eventRoots _⟩

/-- The topmost properties of a block are apart. -/
theorem pairwise_reviewRoots (block : Block) :
    (reviewRoots block).Pairwise fun one two => Apart one.2.id.steps two.2.id.steps := by
  have placed := wellPlaced_reviewMembers block
  refine List.pairwise_flatMap.mpr ⟨fun entry member => ?_, ?_⟩
  · exact List.pairwise_map.mpr (placed entry member).apart
  · have edges := List.pairwise_map.mp (nodup_edges block)
    refine edges.imp_of_mem fun {one two} member otherMember different => ?_
    intro first firstMember second secondMember
    obtain ⟨node, inside, rfl⟩ := List.mem_map.mp firstMember
    obtain ⟨other, within, rfl⟩ := List.mem_map.mp secondMember
    exact (apart_child different).below ((placed one member).below node inside)
      ((placed two otherMember).below other within)

/-- Every place is listed once. -/
theorem nodup_reviewNodes (block : Block) : ((reviewNodes block).map (·.2.id)).Nodup := by
  have once : (places (reviewNodes block)).Nodup :=
    nodup_places (pairwise_reviewRoots block) fun root _ => nodup_nodePaths root.1 root.2
  refine List.Nodup.of_map NodeId.steps ?_
  rwa [List.map_map]

/-! ### The nodes of a pass -/

theorem flatMap_propertyRoots (edge : Nat → Edge) (properties : List Property) :
    (rootsAlong edge propertyRoots properties).flatMap (·.2.2) =
      PropertyNode.below .block edge properties := by
  rw [rootsAlong, List.flatMap_map, PropertyNode.below, List.map_eq_flatMap]
  rfl

theorem flatMap_methodRoots (edge : Nat → Edge) (methods : List Api.Method) :
    (rootsAlong edge methodRoots methods).flatMap (·.2.2) =
      (MethodNode.below .block edge methods).flatMap slotNodes := by
  rw [rootsAlong, List.flatMap_map, MethodNode.below, List.flatMap_map]
  rfl

theorem map_snd_reviewRoots (block : Block) :
    (reviewRoots block).map (·.2) = (reviewMembers block).flatMap (·.2.2) := by
  rw [reviewRoots, List.map_flatMap]
  refine List.flatMap_congr fun entry _ => ?_
  rw [List.map_map]
  exact List.map_id _

/-- The properties that are declared with a block are among its topmost ones, in the same order. -/
theorem blockNodes_sublist (block : Block) :
    (blockNodes block).Sublist ((reviewRoots block).map (·.2)) := by
  simp only [map_snd_reviewRoots, reviewMembers, List.flatMap_append, flatMap_propertyRoots,
    flatMap_methodRoots]
  -- static methods and events come last, and are not declared as properties
  refine .trans ?_ (((List.sublist_append_left _ _).trans (List.sublist_append_left _ _)).trans
    (List.sublist_append_left _ _))
  unfold blockNodes blockProperties blockMethods
  generalize PropertyNode.below .block .property block.properties = fields
  generalize PropertyNode.below .block .instanceProperty block.instanceProperties = instanceFields
  have first : fields.Sublist (fields ++ instanceFields) := List.sublist_append_left _ _
  cases block.kind with
  | hostModule =>
    exact (first.append_right _).trans (List.sublist_append_left _ _)
  | hostClass =>
    have second : instanceFields.Sublist (fields ++ instanceFields) := List.sublist_append_right _ _
    exact (second.trans (List.sublist_append_left _ _)).append_right _
  | hostStructure | hostObject | function | basic =>
    rw [List.flatMap_nil, List.append_nil]
    exact (first.trans (List.sublist_append_left _ _)).trans (List.sublist_append_left _ _)

/-- A pass comes to no other nodes than the review. -/
theorem exists_reviewed_of_descends {node : PropertyNode}
    (below : PropertyNode.Descends (blockNodes block) node) : ∃ path, Reviewed block path node := by
  induction below with
  | root member =>
    obtain ⟨⟨lead, _⟩, root, rfl⟩ := List.mem_map.mp ((blockNodes_sublist block).subset member)
    exact ⟨_, .root root⟩
  | child _ member ih =>
    obtain ⟨path, reviewed⟩ := ih
    exact ⟨_, reviewed.child member⟩

end Generator

end HostBindings
