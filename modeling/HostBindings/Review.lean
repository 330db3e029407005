import HostBindings.Generator

/-!
# Review of a description

Before anything is generated, a description is looked through for what is worth a warning: names
that clash, entities without a name, types that are malformed, and parts that are not generated.

## Main definitions

* `Remark` — the warnings; `Remark.message` their wording
* `Api.Block.propertyPaths` — the properties of a block with their paths
* `Generator.review` — the warnings of a description
-/

namespace HostBindings

open Api (Block Property Schema)

/-- What is worth a warning. -/
inductive Remark where
  /-- Two blocks declare one name. -/
  | clash (first second symbol : String)
  /-- A block without a name. -/
  | unnamed (source : String)
  /-- A block with a malformed type. -/
  | malformedBlock (block : String)
  /-- A block whose tag names no kind of block. -/
  | basicBlock (block : String) (tag : Option String)
  /-- A class with static methods or a constructor. -/
  | omittedMethods (block : String)
  /-- A property with a malformed type. -/
  | malformedProperty (block path : String)
  /-- A flaw of the package name. -/
  | package (flaw : Naming.PackageFlaw)
  /-- A template that is not there. -/
  | missingTemplate (name : String)
  deriving DecidableEq, Repr

/-- The wording of a remark. -/
def Remark.message : Remark → String
  | .clash first second symbol => s!"Blocks '{first}' and '{second}' both declare {symbol}"
  | .unnamed source => s!"Unnamed block in {source}"
  | .malformedBlock block => s!"Malformed type on block {block}"
  | .basicBlock block tag =>
    let shown := tag.getD "None"
    s!"Block {block} has basic type '{shown}' - generating a plain struct"
  | .omittedMethods block => s!"Static methods and constructor of {block} are not rendered"
  | .malformedProperty block path =>
    s!"Malformed type on {block}.{path} - using dynamic handle"
  | .package flaw => s!"Package name: {flaw.message}"
  | .missingTemplate name => s!"Missing template {name}"

/-- How a path shows the name of a property. -/
def pathName (property : Property) : String :=
  if property.info.name = "" then "<unnamed>" else property.info.name

mutual
/-- A property and the properties below it, with their paths. -/
def propertyPaths (lead : String) : Property → List (String × Property)
  | ⟨info, properties, parameters, possibleValues⟩ =>
    let property : Property := ⟨info, properties, parameters, possibleValues⟩
    let path := lead ++ pathName property
    (path, property) ::
      (listPaths (path ++ ".") properties ++ listPaths (path ++ ".") parameters)

/-- Properties and the properties below them, with their paths. -/
def listPaths (lead : String) : List Property → List (String × Property)
  | [] => []
  | property :: rest => propertyPaths lead property ++ listPaths lead rest
end

/-- The properties of a block, at any depth, with their paths: fields first, then parameters and
results of methods, then payloads of events. -/
def blockPaths (block : Block) : List (String × Property) :=
  let methods := block.methods ++ block.instanceMethods ++ block.staticMethods
  let events := block.events ++ block.instanceEvents
  listPaths "" block.properties ++ listPaths "" block.instanceProperties ++
    methods.flatMap (fun method =>
      let lead := method.info.name ++ "."
      listPaths lead method.parameters ++ listPaths lead method.returns.toList) ++
    events.flatMap fun event => listPaths (event.info.name ++ ".") event.returns

/-- What is worth a warning in a block of its own. -/
def blockRemarks (source : String) (block : Block) : List Remark :=
  (if block.name = "" then [.unnamed source] else []) ++
    (if block.info.rawType.isMalformed then [.malformedBlock block.name] else []) ++
    (if block.kind = .basic then [.basicBlock block.name block.info.rawType.tag] else []) ++
    (if block.kind = .hostClass ∧
        (!block.staticMethods.isEmpty || block.constructorMethod.isSome) then
      [.omittedMethods block.name] else []) ++
    (blockPaths block).filterMap fun (path, property) =>
      if property.info.rawType.isMalformed then some (.malformedProperty block.name path) else none

namespace Generator

/-- The warnings of blocks; `seen` has the symbols of the blocks before, with the name of the first
block of each. -/
def reviewBlocks (generator : Generator) (source : String) (seen : List (String × String)) :
    List Block → Except UseFault (List Remark)
  | [] => .ok []
  | block :: rest => do
    let symbol ← generator.baseSymbol block.info
    let (clashes, seen) :=
      match seen.lookup symbol with
      -- each further block is told the first one of its symbol
      | some first => ([Remark.clash first block.name symbol], seen)
      | none => ([], seen ++ [(symbol, block.name)])
    let more ← generator.reviewBlocks source seen rest
    return clashes ++ blockRemarks source block ++ more

/-- The templates that a generator needs. -/
def neededTemplates : List String :=
  ["file_header.go.j2", "struct.go.j2", "const_block.go.j2", "enum.go.j2", "func_type.go.j2"]

/-- The warnings of a description, and of the settings it is generated with. -/
def review (generator : Generator) (schema : Schema) : Except UseFault (List Remark) := do
  let blocks ← generator.reviewBlocks schema.source.text [] schema.blocks
  let flaws ← generator.settings.packageFlaws
  let missing := neededTemplates.filter fun name => !generator.templates.has name
  return blocks ++ flaws.map .package ++ missing.map .missingTemplate

end Generator

end HostBindings
