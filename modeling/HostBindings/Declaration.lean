import HostBindings.Literal
import HostBindings.Pass
import HostBindings.Text.Layout

/-!
# Declarations

What is written for a block: constants for its events, a structure that wraps the handle of the
host object, and the nested structures, function types and enumerations that its fields and
methods need.

## Main definitions

* `Generator.docLines`, `Generator.fieldTag` — comments, and the tag behind a field
* `Generator.slotOf`, `Generator.signatureOf`, `Generator.fieldOf`, `Generator.methodFieldOf`
* `Generator.eventConstant`, `Generator.memberOf` — constants
* `Generator.blockEvents`, `Generator.blockProperties`, `Generator.blockMethods`
* `Generator.declareBlock` — the primary declarations of a block
* `Generator.declarePending`, `Generator.drain` — the declarations that wait
* `Generator.emission` — the pass of a block
-/

namespace HostBindings.Generator

open Api (Block Info Kind Property)

/-! ### Comments and tags -/

/-- The comment lines of an entity: its description and its platforms. -/
def docLines (generator : Generator) (info : Info) : List String :=
  if generator.settings.commentsOn then
    (if info.description = "" then [] else Text.commentLines info.description) ++
      if info.platforms.isEmpty then []
      else ["// Platforms: " ++ ", ".intercalate info.platforms]
  else []

/-- A name with its backslashes and quotation marks escaped. -/
def escapeTag (name : String) : String :=
  String.ofList (name.toList.flatMap fun c => if c = '\\' ∨ c = '"' then ['\\', c] else [c])

/-- The tag behind a field with its name in the host. Only the fields of an owner that is no
function have one. -/
def fieldTag (generator : Generator) (info : Info) (parent : Option Info) : String :=
  match generator.settings.tagKey?, parent with
  | some key, some owner =>
    if owner.kind = .function then ""
    else
      let name := escapeTag (if info.name = "" then "obj" else info.name)
      s!" \x60{key}:\"{name}\"\x60"
  | _, _ => ""

/-! ### Fields, parameters and results -/

/-- Records the imports of a type. -/
def useType (type : BindingType) : Emit Unit :=
  type.imports.forM Emit.requireImport

/-- The type of a property. An enumeration and a composite get a type of their own. -/
def typeNameOf (generator : Generator) (node : PropertyNode) (parent : Option Entity) :
    Emit Code.TypeName := do
  -- possible values make an enumeration, whatever the tag is
  if node.property.isEnum then
    return .nested (← Emit.register generator .constants node parent)
  else if node.property.kind = .basic then
    let type ← Emit.setting (generator.types.basicType node.property.tag)
    useType type
    return .basic type.name
  else return .nested (← Emit.register generator .composite node parent)

/-- A property as a name and a type. -/
def slotOf (generator : Generator) (node : PropertyNode) (parent : Option Entity) :
    Emit Code.Slot := do
  let name ← Emit.setting (generator.baseSymbol node.property.info)
  return ⟨name, ← generator.typeNameOf node parent⟩

/-- The parameters and the result of a function. -/
def signatureOf (generator : Generator) (owner : Entity) (parameters : List PropertyNode)
    (result? : Option PropertyNode) : Emit Code.Signature := do
  let slots ← parameters.mapM fun parameter => generator.slotOf parameter (some owner)
  match result? with
  | some node => return ⟨slots, some (← generator.slotOf node (some owner))⟩
  | none => return ⟨slots, none⟩

/-- The field of a property. -/
def fieldOf (generator : Generator) (parent : Entity) (node : PropertyNode) :
    Emit Code.Field := do
  let slot ← generator.slotOf node (some parent)
  let info := node.property.info
  return ⟨generator.docLines info, slot.name, .value slot.type,
    generator.fieldTag info (some parent.info)⟩

/-- The name and the type of a method. -/
def methodTypeOf (generator : Generator) (node : MethodNode) :
    Emit (String × Code.Signature) := do
  let signature ← generator.signatureOf node.entity node.parameters node.result?
  return (← Emit.setting (generator.baseSymbol node.method.info), signature)

/-- The field of a method. -/
def methodFieldOf (generator : Generator) (parent : Entity) (node : MethodNode) :
    Emit Code.Field := do
  let (name, signature) ← generator.methodTypeOf node
  let info := node.method.info
  return ⟨generator.docLines info, name, .function signature,
    generator.fieldTag info (some parent.info)⟩

/-- The field for the handle of the host object. -/
def hostHandle (generator : Generator) : Emit Code.Handle := do
  let handle ← Emit.setting generator.types.hostHandle
  useType handle
  return ⟨generator.settings.hostField, handle.name⟩

/-- How a property is written. -/
def declareProperty (generator : Generator) (node : PropertyNode) (parent : Option Entity) :
    Emit String := do
  return (← generator.slotOf node parent).text

/-- How a method is written: as a field of function type. -/
def declareMethod (generator : Generator) (node : MethodNode) : Emit String := do
  let (name, signature) ← generator.methodTypeOf node
  return s!"{name} {signature.text}"

/-- The line of the field for the handle of the host object. -/
def hostHandleLine (generator : Generator) : Emit Json := do
  return (← generator.hostHandle).line

/-! ### Events -/

/-- The constant of an event: a name made of the stem of the block and the symbol of the event, and
the name of the event in the host. -/
def eventConstant (generator : Generator) (comments : List String) (name : String) :
    Emit Code.Constant := do
  let lead ← Emit.setting generator.settings.eventLeadText
  let symbol ← Emit.setting (generator.symbol name)
  -- each constant claims a name of its own, also for an event of the same name
  let identifier ← Emit.claim (lead ++ (← get).scope.stem ++ symbol)
  return ⟨comments, identifier, Text.quote name⟩

/-- How the constant of an event is written. -/
def declareEvent (generator : Generator) (name : String) : Emit String := do
  return (← generator.eventConstant [] name).text none

/-- Passes a plain event name; any other is refused or passed with a warning. -/
def checkEventName (generator : Generator) (name : String) : Emit Unit :=
  if Literal.isPlainEventName name then pure ()
  else if generator.settings.strictEvents then throw (.suspiciousEvent name)
  else Emit.warn (suspiciousEventRemark name)

/-- The constant of an event, behind a check of its name. -/
def checkedConstant (generator : Generator) (event : Api.Event) : Emit Code.Constant := do
  generator.checkEventName event.info.name
  generator.eventConstant (generator.docLines event.info) event.info.name

/-- The constants of events. -/
def eventsDeclaration (generator : Generator) (events : List Api.Event) :
    Emit Code.Declaration := do
  let constants ← events.mapM generator.checkedConstant
  let symbol := (← get).scope.symbol
  let comments :=
    if generator.settings.commentsOn then [s!"// Events emitted by {symbol}."] else []
  return .events comments constants

/-! ### Blocks -/

/-- Writes the constants of the events, if there are any. -/
def declareEvents (generator : Generator) (events : List Api.Event) : Emit Unit := do
  if !events.isEmpty then Emit.declare generator (← generator.eventsDeclaration events)

/-- The structure of a block. -/
def structureOf (generator : Generator) (block : Block) (properties : List PropertyNode)
    (methods : List MethodNode) : Emit Code.Declaration := do
  let owner : Entity := ⟨.block, block.info⟩
  let handle ← generator.hostHandle
  let fields ← properties.mapM (generator.fieldOf owner)
  let calls ← methods.mapM (generator.methodFieldOf owner)
  let symbol := (← get).scope.symbol
  return .composite (generator.docLines block.info) symbol handle (fields ++ calls)

/-- Writes the constants of the events, if there are any, and the structure of a block. -/
def declareMembers (generator : Generator) (block : Block) (events : List Api.Event)
    (properties : List PropertyNode) (methods : List MethodNode) : Emit Unit := do
  generator.declareEvents events
  Emit.declare generator (← generator.structureOf block properties methods)

/-- The events that are declared for a block: those of a module, or of the instances of a class. -/
def blockEvents (block : Block) : List Api.Event :=
  match block.kind with
  | .hostModule => block.events
  | .hostClass => block.instanceEvents
  | _ => []

/-- The properties that are declared for a block: for a class, those of its instances. -/
def blockProperties (block : Block) : List PropertyNode :=
  match block.kind with
  | .hostClass => PropertyNode.below .block .instanceProperty block.instanceProperties
  | _ => PropertyNode.below .block .property block.properties

/-- The methods that are declared for a block: those of a module, or of the instances of a class. -/
def blockMethods (block : Block) : List MethodNode :=
  match block.kind with
  | .hostModule => MethodNode.below .block .method block.methods
  | .hostClass => MethodNode.below .block .instanceMethod block.instanceMethods
  | _ => []

/-- Reports a class whose static methods or constructor are left out. -/
def noteOmitted (block : Block) : Emit Unit := do
  if block.kind = .hostClass &&
      (!block.staticMethods.isEmpty || block.constructorMethod.isSome) then
    Emit.note .debug s!"{block.name}: static methods and constructor are not rendered"

/-- Writes the primary declarations of a block. -/
def declareBlock (generator : Generator) (block : Block) : Emit Unit := do
  noteOmitted block
  generator.declareMembers block (blockEvents block) (blockProperties block) (blockMethods block)

/-! ### Declarations that wait -/

/-- The type that the literals of an enumeration have by its tag, and whether they all fit it; no
type if the tag asks for texts. -/
def literalType? (types : TypeSettings) (name : Json) (literals : List String) : Option Bool :=
  if name.agrees types.intType then some (literals.all Literal.isInteger)
  else if name.agrees types.floatType then some (literals.all Literal.isFloat)
  else if name.agrees types.boolType then some (literals.all Literal.isBoolean)
  else none

/-- The base type of an enumeration. Where a literal does not fit the tag, it is the type of
texts. -/
def enumBaseType (generator : Generator) (pending : Pending) : Emit Json := do
  let types := generator.types
  let type ← Emit.setting (generator.types.basicType pending.node.property.tag)
  let literals := pending.node.property.possibleValues.map (·.literal)
  match literalType? types type.name literals with
  | none => return types.stringType
  | some true => return type.name
  | some false =>
    Emit.warn (s!"values of {pending.name} do not fit {type.name.text}, using " ++
      types.stringType.text)
    return types.stringType

/-- A member of an enumeration. -/
def memberOf (generator : Generator) (name : String) (quoted : Bool)
    (value : Api.PossibleValue) : Emit Code.Constant := do
  let shown := if value.info.name = "" then value.literal else value.info.name
  let symbol ← Emit.setting (generator.symbol shown)
  let member ← Emit.claim (name ++ symbol)
  let literal := if quoted then Text.quote value.literal else value.literal
  return ⟨generator.docLines value.info, member, literal⟩

/-- An enumeration. -/
def enumerationOf (generator : Generator) (pending : Pending) : Emit Code.Declaration := do
  let baseType ← generator.enumBaseType pending
  let quoted := baseType.agrees generator.types.stringType
  let property := pending.node.property
  let members ← property.possibleValues.mapM (generator.memberOf pending.name quoted)
  return .enumeration (generator.docLines property.info) pending.name baseType members

/-- A function type. -/
def functionOf (generator : Generator) (pending : Pending) : Emit Code.Declaration := do
  let node := pending.node
  let signature ← generator.signatureOf node.entity node.parameters none
  return .function (generator.docLines node.property.info) pending.name signature

/-- A nested structure. -/
def compositeOf (generator : Generator) (pending : Pending) : Emit Code.Declaration := do
  let node := pending.node
  let handle ← generator.hostHandle
  let fields ← node.properties.mapM (generator.fieldOf node.entity)
  return .composite (generator.docLines node.property.info) pending.name handle fields

/-- The declaration that waits under a name. -/
def pendingDeclaration (generator : Generator) (pending : Pending) : Emit Code.Declaration :=
  match pending.kind, pending.node.property.kind with
  | .constants, _ => generator.enumerationOf pending
  | .composite, .function => generator.functionOf pending
  | .composite, .basic => throw (.notComposite .basic pending.name)
  | .composite, _ => generator.compositeOf pending

/-- Writes a declaration that waits. -/
def declarePending (generator : Generator) (pending : Pending) : Emit Unit := do
  Emit.declare generator (← generator.pendingDeclaration pending)

mutual
/-- The number of properties in a property, itself included. -/
def nodeCount : Property → Nat
  | ⟨_, properties, parameters, _⟩ => 1 + nodeCounts properties + nodeCounts parameters

/-- The number of properties in a list of properties. -/
def nodeCounts : List Property → Nat
  | [] => 0
  | property :: rest => nodeCount property + nodeCounts rest
end

/-- Writes the declarations that wait, in order, those included that are queued on the way; at most
`limit` of them. The answer is their number. -/
def drainUpTo (generator : Generator) : (limit : Nat) → Emit Nat
  | 0 => pure 0
  | limit + 1 => do
    let pass ← get
    match pass.scope.pending with
    | [] => return 0
    | pending :: rest =>
      set { pass with scope := { pass.scope with pending := rest } }
      generator.declarePending pending
      modify fun pass => { pass with declared := pass.declared ++ [pending] }
      return (← drainUpTo generator limit) + 1

/-- Writes all declarations that wait, those included that are queued on the way. A declaration only
queues properties below its own, so there are never more than the properties in what waits now. -/
def drain (generator : Generator) : Emit Nat := do
  let waiting := (← get).scope.pending
  generator.drainUpTo (nodeCounts (waiting.map (·.node.property)))

/-- Writes all declarations of a block. The answer is the number of the nested ones. -/
def emission (generator : Generator) (block : Block) : Emit Nat := do
  generator.declareBlock block
  generator.drain

end HostBindings.Generator
