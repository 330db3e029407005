import HostBindings.Generator
import HostBindings.Log
import HostBindings.Scope
import HostBindings.Sink

/-!
# Passes

A pass generates one block. Its state is the scope of the block, the sink that takes the text, the
warnings and the log. A pass that fails keeps its state: the warnings of a failed block are
reported too.

## Main definitions

* `Pass`, `Pass.start`
* `PassFault` — why a pass fails; `PassFault.message` its wording
* `Emit` — the actions of a pass
* `Emit.claim`, `Emit.register` — names
* `Emit.writeSection`, `Emit.declare`, `Emit.requireImport`, `Emit.warn` — what is written
* `Pass.closeInto` — the text of a pass handed over to a unit
-/

namespace HostBindings

open Api (Block Kind)

/-- The state of a pass. -/
structure Pass where
  /-- The block. -/
  block : Block
  /-- Its names. -/
  scope : Scope
  /-- Its text. -/
  sink : Sink
  /-- The number of sections that were written. -/
  sections : Nat := 0
  /-- The queued declarations that were written, in order. -/
  declared : List Pending := []
  /-- The warnings. -/
  warnings : List String := []
  /-- The log. -/
  log : Log := []

/-- Why a pass fails. -/
inductive PassFault where
  /-- A setting that cannot be used. -/
  | setting (fault : UseFault)
  /-- An event name that is not let through. -/
  | suspiciousEvent (name : String)
  /-- A property of a kind that has no declaration of its own. -/
  | notComposite (kind : Kind) (name : String)
  /-- Text for a sink that is closed. -/
  | closedSink (blockName : String)
  /-- A template that cannot be rendered. -/
  | template (error : Template.RenderError)
  deriving DecidableEq, Repr

/-- The remark on a suspicious event name. -/
def suspiciousEventRemark (name : String) : String :=
  s!"suspicious event name {Text.display name}"

/-- The wording of a fault. -/
def PassFault.message : PassFault → String
  | .setting fault => fault.message
  | .suspiciousEvent name => suspiciousEventRemark name
  | .notComposite kind name => s!"Cannot declare {kind.word} type {name} as a composite"
  | .closedSink blockName => s!"Sink for {blockName} is already closed"
  | .template error => error.message

/-- A text without the line feeds around it; nothing if it has nothing else. -/
def sectionText? (text : String) : Option String :=
  let trimmed := String.ofList (Text.trimNewlines text.toList)
  if trimmed = "" then none else some trimmed

/-- The actions of a pass. -/
abbrev Emit := ExceptT PassFault (StateM Pass)

namespace Emit

/-- A use of settings within a pass. -/
def setting (result : Except UseFault α) : Emit α :=
  match result with
  | .ok value => pure value
  | .error fault => throw (.setting fault)

/-- Reports one record. -/
def note (level : Level) (message : String) : Emit Unit :=
  modify fun pass => { pass with log := pass.log ++ [⟨level, message⟩] }

/-- Claims a name for a candidate. -/
def claim (candidate : String) : Emit String := do
  let pass ← get
  let (name, scope) := pass.scope.claim candidate
  set { pass with scope }
  if name ≠ candidate then note .debug s!"Name {candidate} taken, using {name}"
  return name

/-- What the names below an owner begin with. -/
def scopeFor (generator : Generator) (parent : Option Entity) : Emit String := do
  let pass ← get
  setting (pass.scope.scopeFor generator.symbol parent)

/-- The name of a nested entity. An entity of a symbol and a shape that have a name already shares
it; any other claims one, and waits for its declaration. -/
def register (generator : Generator) (kind : PendingKind) (node : PropertyNode)
    (parent : Option Entity) : Emit String := do
  let symbol ← setting (generator.symbol node.property.info.name)
  let key : ShapeKey := ⟨kind, symbol, node.property.shape⟩
  match (← get).scope.shapes.lookup key with
  | some name =>
    let shown := if node.property.info.name = "" then "<unnamed>" else node.property.info.name
    note .debug s!"Reusing {name} for {shown}"
    return name
  | none =>
    -- the name is claimed last, so a fault before leaves all names as they are
    let lead ← scopeFor generator parent
    let name ← claim (lead ++ symbol)
    modify fun pass =>
      { pass with
        scope :=
          { pass.scope with
            shapes := pass.scope.shapes ++ [(key, name)]
            given := (node.id, name) :: pass.scope.given
            pending := pass.scope.pending ++ [⟨kind, name, node⟩] } }
    return name

/-- Writes text to the sink. -/
def write (text : String) : Emit Unit := do
  let pass ← get
  match pass.sink.write? text with
  | some sink => set { pass with sink }
  | none => throw (.closedSink pass.sink.blockName)

/-- Writes a text that is not empty, with a blank line before it unless it is the first. -/
def writeTrimmed (text : String) : Emit Unit := do
  if (← get).sections ≠ 0 then write "\n\n"
  write text
  modify fun pass => { pass with sections := pass.sections + 1 }

/-- Writes one top-level text. Line feeds around it do not count, and an empty one is not
written. -/
def writeSection (text : String) : Emit Unit :=
  match sectionText? text with
  | some trimmed => writeTrimmed trimmed
  | none => pure ()

/-- Records an import, unless it is switched off. -/
def requireImport (path : Json) : Emit Unit := do
  if path.truthy then
    let path ← setting path.hashed
    modify fun pass => { pass with sink := pass.sink.addImport path }

/-- Records a warning. -/
def warn (message : String) : Emit Unit := do
  let pass ← get
  note .warning s!"{pass.block.name}: {message}"
  modify fun pass => { pass with warnings := pass.warnings ++ [message] }

/-- The text of a declaration. -/
def render (generator : Generator) (declaration : Code.Declaration) : Emit String :=
  match generator.templates.render declaration.template declaration.context with
  | .ok text => pure text
  | .error error => throw (.template error)

/-- Writes one top-level declaration. -/
def declare (generator : Generator) (declaration : Code.Declaration) : Emit Unit := do
  match sectionText? (← render generator declaration) with
  | some trimmed =>
    writeTrimmed trimmed
    modify fun pass => { pass with sink := pass.sink.record declaration }
  | none => pure ()

end Emit

/-- The pass of a block before anything is generated; `reserved` are the names taken already. -/
def Pass.start (generator : Generator) (block : Block) (reserved : List String) :
    Except UseFault Pass := do
  let symbol ← generator.baseSymbol block.info
  let stem ← generator.stem block.info
  return { block, scope := .start symbol stem reserved, sink := { blockName := block.name } }

/-- Hands the text of a pass to a unit, once. What still waits for its declaration is reported. -/
def Pass.closeInto (pass : Pass) (unit : DeclarationUnit) : Pass × DeclarationUnit :=
  let waiting := pass.scope.pending.length
  let records :=
    if waiting = 0 then []
    else [⟨.warning, s!"{pass.block.name}: closing with {waiting} undeclared types"⟩]
  let (sink, unit) := unit.take pass.sink
  ({ pass with sink, log := pass.log ++ records }, unit)

end HostBindings
