import HostBindings.Generation
import HostBindings.Proofs.Emission.Drain
import HostBindings.Proofs.Runs.Blocks
import HostBindings.Proofs.Shapes.Declarations

/-!
# Generations by names and shapes

Without comments, what is generated of a description depends on the names and the shapes of the
properties in it, and on nothing else that is said about them: not on descriptions, platforms or
marks, not on what is required, and of a type only on its tag. Properties may be replaced at any
depth by others of one name and one shape, and code, outcomes, warnings and log stay the same.

That is why nested declarations may be shared: of two nodes of one symbol and one shape, either gets
the declaration of the other.

## Main results

* `Generator.agree_emission` — the pass of a block
* `Generator.runBlock_eq`, `Generator.review_eq` — runs and reviews
* `Generator.generation_by_shapes`
-/

namespace HostBindings.Generator

open Api (Block Property Schema)
open Emit (agree_declare)

variable {generator : Generator}

/-! ### Passes -/

/-- Without comments, declarations that look the same are the same. -/
theorem declaresAlike_same (generator : Generator) :
    DeclaresAlike (.same generator) generator.settings.addComments .whole := by
  intro declaration declaration' same
  rw [Code.Declaration.seen_whole, Code.Declaration.seen_whole] at same
  rw [same]
  exact agree_declare declaration'

/-! ### Runs -/

section Runs

variable {σ η : Type} {destination : Destination σ η} {shared : Bool} {block block' : Block}

theorem finish_eq (named : block.name = block'.name) (result : BlockResult) :
    (Running.finish block result : Running σ Unit) = Running.finish block' result := by
  unfold Running.finish
  rw [named]

theorem setting_error_bind {α β : Type} (fault : UseFault) (next : α → Running σ β) :
    (Running.setting (.error fault) >>= next) = throw (.setting fault) := rfl

theorem runPass_eq (quiet : generator.settings.commentsOn = false)
    (alike : block.Alike block') {start start' : Pass}
    (beside : Pass.Alike (.same generator) start start') (handle : η) :
    generator.runPass destination shared block start handle =
      generator.runPass destination shared block' start' handle := by
  have agree : Emit.Agree (Pass.Alike (.same generator)) (generator.emission block)
      (generator.emission block') :=
    agree_emission (hides_whole quiet) (declaresAlike_same generator) alike
  obtain ⟨results, passes⟩ := agree start start' beside
  unfold Emit.outcome at results passes
  unfold runPass commitPass
  rcases ran : (generator.emission block).run.run start with ⟨result, pass⟩
  rcases ran' : (generator.emission block').run.run start' with ⟨result', pass'⟩
  rw [ran, ran'] at results passes
  dsimp only at results passes
  subst results
  have sinks : pass.sink = pass'.sink := passes.sink
  simp only [passes.log, passes.warnings, sinks, passes.names, alike.name, finish_eq alike.name]

/-- A block is run as one that is alike, where the destination is opened for both alike. -/
theorem runBlock_eq (quiet : generator.settings.commentsOn = false)
    (opens : destination.openFor block = destination.openFor block')
    (alike : block.Alike block') :
    generator.runBlock destination shared block = generator.runBlock destination shared block' := by
  unfold runBlock passOver
  rw [alike.name, alike.info.processes, opens]
  refine bind_congr fun _ => bind_congr fun allowed => ?_
  simp only [finish_eq alike.name]
  split
  · rfl
  refine bind_congr fun state => ?_
  have fresh : SinkPairing.same.paired { blockName := block.name }
      { blockName := block'.name } := by
    rw [alike.name]
    rfl
  rcases start_alike generator generator.settings.addComments alike fresh state.reserved with
    ⟨fault, failed, failed'⟩ | ⟨start, start', started, started', beside⟩
  · rw [failed, show Pass.start generator block' state.reserved = .error fault from failed',
      setting_error_bind, setting_error_bind]
  · rw [started, show Pass.start generator block' state.reserved = .ok start' from started']
    simp only [Running.setting, pure_bind, beside.symbol, runPass_eq quiet alike beside]

end Runs

/-! ### Reviews -/

section Schemas

variable {schema schema' : Schema}

theorem reviewBlocks_eq (source : String) {blocks blocks' : List Block}
    (alike : List.Forall₂ Block.Alike blocks blocks') (seen : List (String × String)) :
    generator.reviewBlocks source seen blocks = generator.reviewBlocks source seen blocks' := by
  induction alike generalizing seen with
  | nil => rfl
  | @cons block block' _ _ first _ ih =>
    simp only [reviewBlocks, baseSymbol_eq generator first.info.name first.info.kind, first.name,
      blockRemarks_eq source first, ih]

theorem Matches.alike (same : schema.Matches Property.Alike schema') :
    List.Forall₂ Block.Alike schema.blocks schema'.blocks :=
  same.blocks.imp fun _ _ => Block.Matches.alike

theorem review_eq (same : schema.Matches Property.Alike schema') :
    generator.review schema = generator.review schema' := by
  simp only [review, same.source, reviewBlocks_eq _ (Matches.alike same)]

/-- The names of the blocks are made of their common parts. -/
theorem blockSymbols_eq (alike : List.Forall₂ Block.Alike schema.blocks schema'.blocks) :
    generator.blockSymbols schema = generator.blockSymbols schema' := by
  have symbols := forall₂_map_eq alike (f := fun block => generator.baseSymbol block.info)
    (g := fun block => generator.baseSymbol block.info)
    fun alike => baseSymbol_eq generator alike.info.name alike.info.kind
  have mapped (blocks : List Block) : blocks.mapM (fun block => generator.baseSymbol block.info) =
      (blocks.map fun block => generator.baseSymbol block.info).mapM id := by
    rw [List.mapM_map]
    rfl
  unfold blockSymbols
  rw [mapped, mapped, symbols]

theorem run_eq_of_matches (quiet : generator.settings.commentsOn = false)
    (same : schema.Matches Property.Alike schema') (shared : Bool) :
    generator.run .toUnit shared schema = generator.run .toUnit shared schema' := by
  have blocks {blocks blocks' : List Block}
      (all : List.Forall₂ (Block.Matches Property.Alike) blocks blocks') :
      blocks.forM (generator.runBlock .toUnit shared) =
        blocks'.forM (generator.runBlock .toUnit shared) := by
    induction all with
    | nil => rfl
    | @cons block block' _ _ first _ ih =>
      have opens : Destination.toUnit.openFor block = Destination.toUnit.openFor block' := rfl
      rw [List.forM, List.forM, runBlock_eq quiet opens first.alike, ih]
  unfold run
  rw [blockSymbols_eq (Matches.alike same), blocks same.blocks, same.source]

/-- The first block with metadata has the same in both descriptions. -/
theorem metadata_eq (same : schema.Matches Property.Alike schema') :
    schema.metadataBlock?.map (·.info) = schema'.metadataBlock?.map (·.info) := by
  have infos := forall₂_map_eq same.blocks (f := (·.info)) (g := (·.info)) fun alike => alike.info
  have found := congrArg (List.find? (·.hasMetadata)) infos
  rwa [List.find?_map, List.find?_map] at found

theorem generate_eq_of_matches (quiet : generator.settings.commentsOn = false)
    (same : schema.Matches Property.Alike schema') :
    generator.generate schema = generator.generate schema' := by
  have code (unit : DeclarationUnit) : generator.unitCode schema unit =
      generator.unitCode schema' unit := by
    unfold unitCode
    rw [metadata_eq same]
  unfold generate reviewAndRun
  simp only [review_eq same, run_eq_of_matches quiet same, code, same.source,
    isEmpty_eq_of_forall₂ same.blocks, same.blocks.length_eq]

end Schemas

/-- Without comments, properties of a description may be replaced, at any depth, by others of one
name and one shape: the same is generated, with the same outcomes, warnings and log, or nothing for
the same reason. And whichever of two nodes of one symbol and one shape gets a name, the declaration
that waits under it is the same. -/
theorem generation_by_shapes (generator : Generator)
    (quiet : generator.settings.commentsOn = false) :
    (∀ schema schema' : Schema, schema.Matches Property.Reworked schema' →
      generator.generate schema = generator.generate schema') ∧
    ∀ (kind : PendingKind) (parent : Option Entity) (node node' : PropertyNode) (p : Pass),
      node.id ≠ .block → node'.id ≠ .block →
      generator.symbol node.property.info.name = generator.symbol node'.property.info.name →
      node.property.shape = node'.property.shape →
      (∀ symbol, generator.symbol node.property.info.name = .ok symbol →
        p.scope.shapes.lookup ⟨kind, symbol, node.property.shape⟩ = none) →
      (Emit.outcome (do
        let name ← Emit.register generator kind node parent
        generator.pendingDeclaration ⟨kind, name, node⟩) p).1 =
      (Emit.outcome (do
        let name ← Emit.register generator kind node' parent
        generator.pendingDeclaration ⟨kind, name, node'⟩) p).1 := by
  refine ⟨fun schema schema' reworked => ?_, fun kind parent node node' p => ?_⟩
  · exact generate_eq_of_matches quiet (reworked.mono fun _ _ => Property.Reworked.alike)
  · exact declaration_eq_of_shape_eq quiet kind parent

/-- A generator without comments. -/
def uncommented : Generator := { settings := { addComments := .bool false } }

/-- A module with one composite property that has one field. -/
def menuSample (item field : Api.Info) : Schema where
  source := .string "s.json"
  blocks :=
    [{ info := { name := "menu", rawType := .single "Module" }
       properties := [{ info := item, properties := [{ info := field }] }] }]

/-- A composite under a name, at a place of a block. -/
def compositeSample (place : Nat) (name description : String) : PropertyNode where
  id := NodeId.block.child (.property place)
  property := { info := { name, rawType := .single "Object", description } }

/-- A pass in which nothing has a name yet. -/
def unnamedPass : Pass :=
  { block := {}, scope := .start "Menu" "Menu" [], sink := { blockName := "menu" } }

theorem generation_by_shapes_sample :
    uncommented.generate (menuSample { name := "item", rawType := .single "Object" }
        { name := "label" }) =
      uncommented.generate (menuSample { name := "item", rawType := .single "Object" }
        { name := "label", rawType := .single "", description := "shown", required := true }) ∧
    (Emit.outcome (do
      let name ← Emit.register uncommented .composite (compositeSample 0 "menu item" "first") none
      uncommented.pendingDeclaration
        ⟨.composite, name, compositeSample 0 "menu item" "first"⟩) unnamedPass).1 =
    (Emit.outcome (do
      let name ← Emit.register uncommented .composite (compositeSample 1 "menu-item" "") none
      uncommented.pendingDeclaration
        ⟨.composite, name, compositeSample 1 "menu-item" ""⟩) unnamedPass).1 := by
  obtain ⟨schemas, nodes⟩ := generation_by_shapes uncommented rfl
  refine ⟨schemas _ _ ⟨rfl, .cons ?_ .nil⟩, ?_⟩
  · exact ⟨rfl, .nil, .cons (.inside rfl (.cons (.here ⟨rfl, rfl⟩) .nil) .nil rfl) .nil, .nil, rfl,
      .nil, .nil, .nil, .nil, .nil⟩
  · exact nodes _ _ _ _ unnamedPass (by decide) (by decide) (by decide +kernel) rfl fun _ _ => rfl

end HostBindings.Generator
