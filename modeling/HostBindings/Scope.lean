import HostBindings.Api.Shape
import HostBindings.Naming.Normalizer

/-!
# The names of a block

While a block is generated, nested composites and enumerations get names of their own. A name is
claimed once; where a wanted name is taken, the least free number from two on is appended. Two
nested entities of one symbol and one shape share a name. What has got a name is queued until its
declaration is written.

## Main definitions

* `NodeId`, `Entity`, `PropertyNode` — nodes of a description, told apart by where they stand
* `freshName` — the name that is claimed for a candidate
* `Scope` — the names of a block; `Scope.scopeFor`, `Scope.claim`, `Scope.register`
-/

namespace HostBindings

open Api (Block Event Info Method PossibleValue Property Shape)

/-- One step from a node of a description to a node below it. -/
inductive Edge where
  | event (index : Nat)
  | property (index : Nat)
  | method (index : Nat)
  | instanceEvent (index : Nat)
  | instanceProperty (index : Nat)
  | instanceMethod (index : Nat)
  | staticMethod (index : Nat)
  | constructorMethod
  | parameter (index : Nat)
  | payload (index : Nat)
  | result
  | possibleValue (index : Nat)
  deriving DecidableEq, Repr

/-- Where a node stands: the root it is below, and the steps from there. The root of a block has no
name; a property that stands alone is a root under its name. -/
structure NodeId where
  /-- The name of the root. -/
  root : String := ""
  /-- The steps from the root. -/
  steps : List Edge := []
  deriving DecidableEq, Repr

/-- The node one step below. -/
def NodeId.child (id : NodeId) (edge : Edge) : NodeId :=
  { id with steps := id.steps ++ [edge] }

/-- The node of the block itself. -/
def NodeId.block : NodeId := {}

/-- An entity as the owner of others: where it stands, and its common part. -/
structure Entity where
  /-- Where it stands. -/
  id : NodeId
  /-- The common part. -/
  info : Info

/-- A property where it stands. -/
structure PropertyNode where
  /-- Where it stands. -/
  id : NodeId
  /-- The property. -/
  property : Property

namespace PropertyNode

/-- A property as the owner of others. -/
def entity (node : PropertyNode) : Entity := ⟨node.id, node.property.info⟩

/-- Properties where they stand below a node. -/
def below (id : NodeId) (edge : Nat → Edge) (properties : List Property) : List PropertyNode :=
  properties.zipIdx.map fun (property, index) => ⟨id.child (edge index), property⟩

/-- The fields of a composite. -/
def properties (node : PropertyNode) : List PropertyNode :=
  below node.id .property node.property.properties

/-- The parameters of a function. -/
def parameters (node : PropertyNode) : List PropertyNode :=
  below node.id .parameter node.property.parameters

end PropertyNode

/-- A method where it stands. -/
structure MethodNode where
  /-- Where it stands. -/
  id : NodeId
  /-- The method. -/
  method : Method

namespace MethodNode

/-- A method as the owner of others. -/
def entity (node : MethodNode) : Entity := ⟨node.id, node.method.info⟩

/-- Methods where they stand in a block. -/
def below (id : NodeId) (edge : Nat → Edge) (methods : List Method) : List MethodNode :=
  methods.zipIdx.map fun (method, index) => ⟨id.child (edge index), method⟩

/-- The parameters of a method. -/
def parameters (node : MethodNode) : List PropertyNode :=
  PropertyNode.below node.id .parameter node.method.parameters

/-- The result of a method. -/
def result? (node : MethodNode) : Option PropertyNode :=
  node.method.returns.map fun result => ⟨node.id.child .result, result⟩

end MethodNode

/-! ### Claiming names -/

/-- A name with a number behind it. -/
def numbered (candidate : String) (number : Nat) : String :=
  candidate ++ toString number

/-- The name that is claimed for a candidate: the candidate if it is free, else the candidate with
the least number from two on whose name is free. One of the first numbers, as many as there are
taken names and one more, is always free. -/
def freshName (taken : List String) (candidate : String) : String :=
  if candidate ∉ taken then candidate
  else
    let numbers := (List.range (taken.length + 1)).map (· + 2)
    match numbers.find? fun number => numbered candidate number ∉ taken with
    | some number => numbered candidate number
    | none => candidate

/-- What a queued declaration describes. -/
inductive PendingKind where
  /-- A nested structure or function type. -/
  | composite
  /-- An enumeration. -/
  | constants
  deriving DecidableEq, Repr

/-- A name that waits for its declaration. -/
structure Pending where
  /-- What it describes. -/
  kind : PendingKind
  /-- The name. -/
  name : String
  /-- The property that is declared under the name. -/
  node : PropertyNode

/-- What decides whether two nested entities share a name. -/
structure ShapeKey where
  /-- What is described. -/
  kind : PendingKind
  /-- The symbol of the name in the host. -/
  symbol : String
  /-- The shape. -/
  shape : Shape
  deriving DecidableEq

/-- The names of a block. -/
structure Scope where
  /-- The name of the block. -/
  symbol : String
  /-- The name of the block without the suffix of modules. -/
  stem : String
  /-- The names that are taken, latest last. -/
  names : List String
  /-- The names that were given to shapes. -/
  shapes : List (ShapeKey × String) := []
  /-- The names that were given to nodes. -/
  given : List (NodeId × String) := []
  /-- What waits for its declaration, in order. -/
  pending : List Pending := []

namespace Scope

/-- The names of a block before anything in it is named; `reserved` are taken already. -/
def start (symbol stem : String) (reserved : List String) : Scope :=
  { symbol, stem, names := if symbol ∈ reserved then reserved else reserved ++ [symbol] }

/-- Whether a name is taken. -/
def isTaken (scope : Scope) (name : String) : Bool := scope.names.contains name

/-- What the names below an owner begin with: the name that was given to it, or the stem of the
block with its symbol behind. Names below the block itself, or below nothing, begin with the
stem. -/
def scopeFor (scope : Scope) (symbolOf : String → Except ε String) (parent : Option Entity) :
    Except ε String :=
  match parent with
  | none => .ok scope.stem
  | some owner =>
    if owner.id = .block then .ok scope.stem
    else
      match scope.given.lookup owner.id with
      | some name => .ok name
      | none => do return scope.stem ++ (← symbolOf owner.info.name)

/-- The name claimed for a candidate, and the scope in which it is taken. -/
def claim (scope : Scope) (candidate : String) : String × Scope :=
  let name := freshName scope.names candidate
  (name, { scope with names := scope.names ++ [name] })

end Scope

end HostBindings
