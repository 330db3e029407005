import HostBindings.Scope

/-!
# Addresses of nodes

The nodes of a description can be named by the steps that lead to them: the name of a collection and
a place in it, or the name of a single part.

## Main definitions

* `Node`, `PlacedNode` — any node, with its place
* `PlacedNode.collection`, `PlacedNode.part` — the nodes one step below
* `PlacedNode.follow` — the node that steps lead to
-/

namespace HostBindings

open Api (Block Event Info Method PossibleValue Property)

/-- Any node of a description. -/
inductive Node where
  | block (block : Block)
  | property (property : Property)
  | event (event : Event)
  | method (method : Method)
  | value (value : PossibleValue)

/-- The common part of a node. -/
def Node.info : Node → Info
  | .block node => node.info
  | .property node => node.info
  | .event node => node.info
  | .method node => node.info
  | .value node => node.info

/-- A node where it stands. -/
structure PlacedNode where
  /-- Where it stands. -/
  id : NodeId
  /-- The node. -/
  node : Node

namespace PlacedNode

/-- A node as the owner of others. -/
def entity (placed : PlacedNode) : Entity := ⟨placed.id, placed.node.info⟩

/-- Items where they stand below a node. -/
def place (placed : PlacedNode) (items : List α) (edge : Nat → Edge) (wrap : α → Node) :
    List PlacedNode :=
  items.zipIdx.map fun (item, index) => ⟨placed.id.child (edge index), wrap item⟩

/-- The nodes of a collection. -/
def collection (placed : PlacedNode) (name : String) : List PlacedNode :=
  match placed.node, name with
  | .block block, "events" => placed.place block.events .event .event
  | .block block, "properties" => placed.place block.properties .property .property
  | .block block, "methods" => placed.place block.methods .method .method
  | .block block, "instance_events" => placed.place block.instanceEvents .instanceEvent .event
  | .block block, "instance_properties" =>
    placed.place block.instanceProperties .instanceProperty .property
  | .block block, "instance_methods" =>
    placed.place block.instanceMethods .instanceMethod .method
  | .block block, "static_methods" => placed.place block.staticMethods .staticMethod .method
  | .property property, "properties" => placed.place property.properties .property .property
  | .property property, "parameters" => placed.place property.parameters .parameter .property
  | .property property, "possible_values" =>
    placed.place property.possibleValues .possibleValue .value
  | .method method, "parameters" => placed.place method.parameters .parameter .property
  | .event event, "returns" => placed.place event.returns .payload .property
  | _, _ => []

/-- A part that is a single node. -/
def part (placed : PlacedNode) (name : String) : Option PlacedNode :=
  match placed.node, name with
  | .method method, "returns" =>
    method.returns.map fun result => ⟨placed.id.child .result, .property result⟩
  | .block block, "constructor_method" =>
    block.constructorMethod.map fun method =>
      ⟨placed.id.child .constructorMethod, .method method⟩
  | _, _ => none

/-- The node that steps lead to. -/
def follow (placed : PlacedNode) : List String → Option PlacedNode
  | [] => some placed
  | [name] => placed.part name
  | name :: index :: rest =>
    match placed.part name with
    | some below => below.follow (index :: rest)
    | none => do
      let below ← (placed.collection name)[(← index.toNat?)]?
      below.follow rest

end PlacedNode

end HostBindings
