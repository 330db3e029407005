import HostBindings.Proofs.Shapes.Passes

/-!
# Declarations of alike nodes

Whatever is written for a property depends on its name and its shape alone, but for the comments on
it: fields and their tags, signatures, members and base types of enumerations, and what is queued.
This file goes through the declarations from the types of single properties up to a whole pass. The
generators of the two passes may differ in whether they write comments, as long as the declarations
look the same through a view.

## Main definitions

* `Generator.DeclaresAlike` — declarations that look the same are written side by side

## Main results

* `Generator.agree_slotOf`, `Generator.agree_signatureOf`, `Generator.agreeBy_fieldOf`
* `Generator.agreeBy_pendingDeclaration` — the declaration that waits for a node
* `Generator.agree_declareBlock` — the primary declarations of a block
* `Generator.declaration_eq_of_shape_eq` — one declaration for two nodes of one symbol and shape
-/

namespace HostBindings.Generator

open Api (Block Event Method Property PossibleValue)
open Emit (Agree AgreeBy agree_pure agree_throw agree_bind agree_get agree_ite agree_mapM agree_forM
  agree_set agree_modify agree_setting agree_note agree_warn agree_requireImport agree_claim
  agree_register agreeBy_pure agreeBy_bind agreeBy_get agreeBy_mapM)

variable {generator : Generator} {pairing : generator.Pairing}

/-! ### Nodes -/

theorem forall₂_zipIdx {α β : Type} {Fits : α → β → Prop} {items : List α} {others : List β}
    (fits : List.Forall₂ Fits items others) (start : Nat) :
    List.Forall₂ (fun a b => Fits a.1 b.1 ∧ a.2 = b.2) (items.zipIdx start)
      (others.zipIdx start) := by
  induction fits generalizing start with
  | nil => exact .nil
  | cons first _ ih => exact .cons ⟨first, rfl⟩ (ih (start + 1))

/-- What stands below paired nodes is paired place by place. -/
theorem below_alike (pairing : generator.Pairing) {id id' : NodeId}
    {properties properties' : List Property}
    (paired : pairing.owners id id') (edge : Nat → Edge)
    (alike : List.Forall₂ Property.Alike properties properties') :
    List.Forall₂ (PropertyNode.Alike pairing.nodes) (PropertyNode.below id edge properties)
      (PropertyNode.below id' edge properties') := by
  refine List.rel_map ?_ (forall₂_zipIdx alike 0)
  rintro ⟨a, index⟩ ⟨b, -⟩ ⟨alike, rfl⟩
  exact ⟨pairing.child _ paired, alike⟩

theorem methods_below_alike {methods methods' : List Method} (id : NodeId) (edge : Nat → Edge)
    (alike : List.Forall₂ Method.Alike methods methods') :
    List.Forall₂ (MethodNode.Alike Eq) (MethodNode.below id edge methods)
      (MethodNode.below id edge methods') := by
  refine List.rel_map ?_ (forall₂_zipIdx alike 0)
  rintro ⟨a, index⟩ ⟨b, -⟩ ⟨alike, rfl⟩
  exact ⟨rfl, alike⟩

/-! ### Fields, parameters and results -/

/-- A tag depends on the name of a field and on the kind of its owner. -/
theorem fieldTag_eq {info info' owner owner' : Api.Info} (names : info.name = info'.name)
    (kinds : owner.kind = owner'.kind) :
    generator.fieldTag info (some owner) = generator.fieldTag info' (some owner') := by
  unfold fieldTag
  cases generator.settings.tagKey? with
  | none => rfl
  | some key => simp only [names, kinds]

/-- A name depends on the name of a property and on its kind. -/
theorem baseSymbol_eq (generator : Generator) {info info' : Api.Info}
    (names : info.name = info'.name) (kinds : info.kind = info'.kind) :
    generator.baseSymbol info = generator.baseSymbol info' := by
  unfold baseSymbol
  congr 1
  cases generator.naming with
  | plain normalizer =>
    simp only [Naming.Scheme.baseSymbol, Naming.Normalizer.baseSymbol, names, kinds]
  | loose tables => simp only [Naming.Scheme.baseSymbol, names, kinds]

theorem stem_eq (generator : Generator) {info info' : Api.Info}
    (names : info.name = info'.name) (kinds : info.kind = info'.kind) :
    generator.stem info = generator.stem info' := by
  unfold stem
  congr 1
  cases generator.naming with
  | plain normalizer =>
    simp only [Naming.Scheme.stem, Naming.Normalizer.stem, Naming.Normalizer.baseSymbol, names,
      kinds]
  | loose tables => simp only [Naming.Scheme.stem, Naming.Scheme.baseSymbol, names, kinds]

theorem agree_useType (type : BindingType) :
    Agree (Pass.Alike pairing) (useType type) (useType type) :=
  agree_forM agree_requireImport _

section Nodes

variable {node node' : PropertyNode} {owner owner' : Entity}

theorem agree_typeNameOf (nodes : PropertyNode.Alike pairing.nodes node node')
    (owners : generator.OwnersAlike pairing.owners owner owner') :
    Agree (Pass.Alike pairing) (generator.typeNameOf node (some owner))
      (generator.typeNameOf node' (some owner')) := by
  have shape := nodes.property.shape
  unfold typeNameOf
  rw [Property.isEnum_eq_of_shape_eq shape, Property.kind_eq_of_shape_eq shape,
    Property.tag_eq_of_shape_eq shape]
  refine agree_ite ?_ (agree_ite ?_ ?_)
  · exact agree_bind (agree_register _ nodes owners) fun _ => agree_pure _
  · exact agree_bind (agree_setting _) fun type =>
      agree_bind (agree_useType type) fun _ => agree_pure _
  · exact agree_bind (agree_register _ nodes owners) fun _ => agree_pure _

theorem agree_slotOf (nodes : PropertyNode.Alike pairing.nodes node node')
    (owners : generator.OwnersAlike pairing.owners owner owner') :
    Agree (Pass.Alike pairing) (generator.slotOf node (some owner))
      (generator.slotOf node' (some owner')) := by
  have named := baseSymbol_eq generator nodes.property.name
    (Property.kind_eq_of_shape_eq nodes.property.shape)
  unfold slotOf
  rw [named]
  exact agree_bind (agree_setting _) fun _ =>
    agree_bind (agree_typeNameOf nodes owners) fun _ => agree_pure _

theorem agree_signatureOf (owners : generator.OwnersAlike pairing.owners owner owner')
    {parameters parameters' : List PropertyNode}
    (alike : List.Forall₂ (PropertyNode.Alike pairing.nodes) parameters parameters')
    {result? result?' : Option PropertyNode}
    (results : List.Forall₂ (PropertyNode.Alike pairing.nodes) result?.toList result?'.toList) :
    Agree (Pass.Alike pairing) (generator.signatureOf owner parameters result?)
      (generator.signatureOf owner' parameters' result?') := by
  refine agree_bind (agree_mapM (fun nodes => agree_slotOf nodes owners) alike) fun slots => ?_
  cases result? <;> cases result?'
  case none.none => exact agree_pure _
  case some.some =>
    obtain ⟨nodes, -⟩ := List.forall₂_cons.mp results
    exact agree_bind (agree_slotOf nodes owners) fun _ => agree_pure _
  all_goals cases results

section Views

variable {value : Json} {view : Code.View}

theorem agreeBy_fieldOf (hides : generator.Hides value view)
    (owners : generator.OwnersAlike pairing.owners owner owner')
    (nodes : PropertyNode.Alike pairing.nodes node node') :
    AgreeBy (Code.Field.seen view) (Pass.Alike pairing) (generator.fieldOf owner node)
      ((generator.commenting value).fieldOf owner' node') := by
  refine (agree_slotOf nodes owners).bind fun slot => agreeBy_pure ?_
  simp only [Code.Field.seen, hides.docs _ node'.property.info,
    fieldTag_eq nodes.property.name owners.kind]
  rfl

theorem agreeBy_methodFieldOf (hides : generator.Hides value view)
    (kinds : owner.info.kind = owner'.info.kind) {method method' : MethodNode}
    (methods : MethodNode.Alike pairing.owners method method') :
    AgreeBy (Code.Field.seen view) (Pass.Alike pairing) (generator.methodFieldOf owner method)
      ((generator.commenting value).methodFieldOf owner' method') := by
  have named := methods.method.info.name
  have owners : generator.OwnersAlike pairing.owners method.entity method'.entity :=
    ⟨methods.id, congrArg generator.symbol named, methods.method.info.kind⟩
  -- both methods have a result or none has, and these have one shape
  have results : List.Forall₂ (PropertyNode.Alike pairing.nodes) method.result?.toList
      method'.result?.toList := by
    have returns := methods.method.returns
    unfold MethodNode.result?
    cases given : method.method.returns <;> cases given' : method'.method.returns <;>
      rw [given, given'] at returns
    case none.none => exact .nil
    case some.some =>
      obtain ⟨alike, -⟩ := List.forall₂_cons.mp returns
      exact .cons ⟨pairing.child _ methods.id, alike⟩ .nil
    all_goals cases returns
  have signature : Agree (Pass.Alike pairing) (generator.methodTypeOf method)
      (generator.methodTypeOf method') := by
    unfold methodTypeOf
    rw [baseSymbol_eq generator named methods.method.info.kind]
    exact agree_bind (agree_signatureOf owners
      (below_alike _ methods.id _ methods.method.parameters) results) fun _ =>
        agree_bind (agree_setting _) fun _ => agree_pure _
  refine signature.bind fun _ => agreeBy_pure ?_
  simp only [Code.Field.seen, hides.docs _ method'.method.info, fieldTag_eq named kinds]
  rfl

end Views

theorem agree_hostHandle :
    Agree (Pass.Alike pairing) generator.hostHandle generator.hostHandle :=
  agree_bind (agree_setting _) fun handle => agree_bind (agree_useType handle) fun _ => agree_pure _

/-! ### Declarations that wait -/

theorem literals_eq {values values' : List PossibleValue}
    (alike : List.Forall₂ PossibleValue.Alike values values') :
    values.map (·.literal) = values'.map (·.literal) :=
  forall₂_map_eq alike fun same => same.literal

theorem agree_enumBaseType {pending pending' : Pending}
    (alike : generator.PendingAlike pairing.owners pending pending') :
    Agree (Pass.Alike pairing) (generator.enumBaseType pending)
      (generator.enumBaseType pending') := by
  obtain ⟨tag, -, -, values⟩ := Property.shape_eq_iff.mp alike.shape
  unfold enumBaseType
  simp only [tag, literals_eq values, alike.name]
  refine agree_bind (agree_setting _) fun type => ?_
  split
  · exact agree_pure _
  · exact agree_pure _
  · exact agree_bind (agree_warn _) fun _ => agree_pure _

section Views

variable {value : Json} {view : Code.View}

theorem agreeBy_memberOf (hides : generator.Hides value view) (name : String)
    (quoted : Bool) {member member' : PossibleValue} (alike : PossibleValue.Alike member member') :
    AgreeBy (Code.Constant.seen view) (Pass.Alike pairing) (generator.memberOf name quoted member)
      ((generator.commenting value).memberOf name quoted member') := by
  unfold memberOf
  simp only [alike.name, alike.literal]
  refine (agree_setting _).bind fun _ => (agree_claim _).bind fun _ => agreeBy_pure ?_
  simp only [Code.Constant.seen, hides.docs _ member'.info]

section Pendings

variable {pending pending' : Pending} (hides : generator.Hides value view)
  (alike : generator.PendingAlike pairing.owners pending pending')

include hides alike

theorem agreeBy_enumerationOf :
    AgreeBy (Code.Declaration.seen view) (Pass.Alike pairing) (generator.enumerationOf pending)
      ((generator.commenting value).enumerationOf pending') := by
  obtain ⟨-, -, -, values⟩ := Property.shape_eq_iff.mp alike.shape
  have docs := hides.docs pending.node.property.info pending'.node.property.info
  unfold enumerationOf
  rw [alike.name]
  refine (agree_enumBaseType alike).bind fun base => ?_
  refine agreeBy_bind (agreeBy_mapM (Code.Constant.seen view) (fun same => ?_) values)
    fun members members' same => ?_
  · exact agreeBy_memberOf hides _ _ same
  · exact agreeBy_pure (by simp only [Code.Declaration.seen, docs, same])

theorem agreeBy_functionOf (owners : generator.OwnersAlike pairing.owners pending.node.entity
      pending'.node.entity) :
    AgreeBy (Code.Declaration.seen view) (Pass.Alike pairing) (generator.functionOf pending)
      ((generator.commenting value).functionOf pending') := by
  obtain ⟨-, -, parameters, -⟩ := Property.shape_eq_iff.mp alike.shape
  have docs := hides.docs pending.node.property.info pending'.node.property.info
  unfold functionOf
  rw [alike.name]
  have signature : Agree (Pass.Alike pairing)
      (generator.signatureOf pending.node.entity pending.node.parameters none)
      (generator.signatureOf pending'.node.entity pending'.node.parameters none) :=
    agree_signatureOf owners (below_alike _ alike.id _ parameters) .nil
  refine signature.bind fun _ => ?_
  exact agreeBy_pure (by simp only [Code.Declaration.seen, docs])

theorem agreeBy_compositeOf (owners : generator.OwnersAlike pairing.owners pending.node.entity
      pending'.node.entity) :
    AgreeBy (Code.Declaration.seen view) (Pass.Alike pairing) (generator.compositeOf pending)
      ((generator.commenting value).compositeOf pending') := by
  obtain ⟨-, fields, -, -⟩ := Property.shape_eq_iff.mp alike.shape
  have docs := hides.docs pending.node.property.info pending'.node.property.info
  unfold compositeOf
  rw [alike.name]
  refine agree_hostHandle.bind fun handle => ?_
  refine agreeBy_bind (agreeBy_mapM (Code.Field.seen view) (fun nodes => ?_)
    (below_alike _ alike.id _ fields)) fun values values' same => ?_
  · exact agreeBy_fieldOf hides owners nodes
  · exact agreeBy_pure (by simp only [Code.Declaration.seen, docs, same])

/-- The declarations of two nodes of one symbol and one shape that wait under one name. -/
theorem agreeBy_pendingDeclaration :
    AgreeBy (Code.Declaration.seen view) (Pass.Alike pairing)
      (generator.pendingDeclaration pending)
      ((generator.commenting value).pendingDeclaration pending') := by
  have kinds : pending.node.property.kind = pending'.node.property.kind :=
    Property.kind_eq_of_shape_eq alike.shape
  have owners : generator.OwnersAlike pairing.owners pending.node.entity pending'.node.entity :=
    ⟨alike.id, alike.symbol, kinds⟩
  unfold pendingDeclaration
  rw [alike.kind, kinds, alike.name]
  split
  · exact agreeBy_enumerationOf hides alike
  · exact agreeBy_functionOf hides alike owners
  · exact (agree_throw _).by _
  · exact agreeBy_compositeOf hides alike owners

end Pendings

end Views

/-- Whichever of two nodes of one symbol and one shape gets a new name, the declaration that waits
under it is the same. -/
theorem declaration_eq_of_shape_eq (quiet : generator.settings.commentsOn = false)
    (kind : PendingKind) (parent : Option Entity) {p : Pass}
    (inner : node.id ≠ .block) (inner' : node'.id ≠ .block)
    (symbols : generator.symbol node.property.info.name =
      generator.symbol node'.property.info.name)
    (shapes : node.property.shape = node'.property.shape)
    (new : ∀ symbol, generator.symbol node.property.info.name = .ok symbol →
      p.scope.shapes.lookup ⟨kind, symbol, node.property.shape⟩ = none) :
    (Emit.outcome (do
      let name ← Emit.register generator kind node parent
      generator.pendingDeclaration ⟨kind, name, node⟩) p).1 =
    (Emit.outcome (do
      let name ← Emit.register generator kind node' parent
      generator.pendingDeclaration ⟨kind, name, node'⟩) p).1 := by
  have unnamed := symbols ▸ shapes ▸ new
  simp only [Emit.register, Emit.outcome_bind, Emit.outcome_setting, Emit.outcome_get, symbols]
  cases spelt : generator.symbol node'.property.info.name with
  | error fault => rfl
  | ok symbol =>
    simp only [mapError_ok, shapes, unnamed symbol spelt, Emit.outcome_bind]
    rcases (Emit.scopeFor generator parent).outcome p with ⟨fault | lead, m⟩
    · rfl
    dsimp only
    rcases (Emit.claim (lead ++ symbol)).outcome m with ⟨fault | name, m⟩
    · rfl
    simp only [Emit.outcome_modify, Emit.outcome_pure]
    -- from here on the passes differ in the identity of the named node alone
    have alike : generator.PendingAlike
        (Pairing.between generator node.id node'.id inner inner').owners
        ⟨kind, name, node⟩ ⟨kind, name, node'⟩ := ⟨rfl, rfl, ⟨rfl, rfl⟩, symbols, shapes⟩
    refine (((agreeBy_pendingDeclaration (hides_whole quiet) alike).agree ?_) _ _ ?_).1
    · intro a b same
      rwa [Code.Declaration.seen_whole, Code.Declaration.seen_whole] at same
    refine ⟨rfl, rfl, rfl, rfl, rfl, ?_, ?_, rfl, rfl, rfl, rfl⟩
    · rintro i j ⟨rfl, rfl⟩
      simp
    · exact List.rel_append (List.forall₂_same.mpr fun _ _ => trivial) (.cons trivial .nil)

end Nodes

/-! ### Blocks -/

section Blocks

variable {block block' : Block} {sinks : SinkPairing}

/-- Declarations that look the same are written side by side. -/
def DeclaresAlike (pairing : generator.Pairing) (value : Json) (view : Code.View) : Prop :=
  ∀ declaration declaration' : Code.Declaration, declaration.seen view = declaration'.seen view →
    Agree (Pass.Alike pairing) (Emit.declare generator declaration)
      (Emit.declare (generator.commenting value) declaration')

variable {value : Json} {view : Code.View}

theorem agreeBy_checkedConstant (hides : generator.Hides value view)
    {event event' : Event} (alike : event.Alike event') :
    AgreeBy (Code.Constant.seen view) (Pass.Alike pairing) (generator.checkedConstant event)
      ((generator.commenting value).checkedConstant event') := by
  have checked : Agree (Pass.Alike pairing) (generator.checkEventName event'.info.name)
      (generator.checkEventName event'.info.name) := by
    unfold checkEventName
    exact agree_ite (agree_pure _) (agree_ite (agree_throw _) (agree_warn _))
  unfold checkedConstant eventConstant
  rw [alike.info.name]
  refine checked.bind fun _ => ?_
  refine (agree_setting _).bind fun lead => ?_
  refine (agree_setting _).bind fun symbol => ?_
  refine agreeBy_get fun p q alike => ?_
  rw [alike.stem]
  refine (agree_claim _).bind fun _ => agreeBy_pure ?_
  simp only [Code.Constant.seen, hides.docs _ event'.info]

theorem agree_declareEvents (hides : generator.Hides value view)
    (declares : DeclaresAlike pairing value view) {events events' : List Event}
    (alike : List.Forall₂ Event.Alike events events') :
    Agree (Pass.Alike pairing) (generator.declareEvents events)
      ((generator.commenting value).declareEvents events') := by
  have declaration : AgreeBy (Code.Declaration.seen view) (Pass.Alike pairing)
      (generator.eventsDeclaration events)
      ((generator.commenting value).eventsDeclaration events') := by
    refine agreeBy_bind (agreeBy_mapM (Code.Constant.seen view) (fun events => ?_) alike)
      fun constants constants' same => agreeBy_get fun p q alike => ?_
    · exact agreeBy_checkedConstant hides events
    · rw [alike.symbol]
      exact agreeBy_pure (by simp only [Code.Declaration.seen, hides.heading, same])
  unfold declareEvents
  rw [isEmpty_eq_of_forall₂ alike]
  exact agree_ite (declaration.bind declares) (agree_pure ())

theorem agreeBy_structureOf (hides : generator.Hides value view) (alike : block.Alike block')
    (root : pairing.owners .block .block)
    {properties properties' : List PropertyNode} {methods methods' : List MethodNode}
    (fields : List.Forall₂ (PropertyNode.Alike pairing.nodes) properties properties')
    (calls : List.Forall₂ (MethodNode.Alike pairing.owners) methods methods') :
    AgreeBy (Code.Declaration.seen view) (Pass.Alike pairing)
      (generator.structureOf block properties methods)
      ((generator.commenting value).structureOf block' properties' methods') := by
  have owners : generator.OwnersAlike pairing.owners ⟨.block, block.info⟩ ⟨.block, block'.info⟩ :=
    ⟨root, congrArg generator.symbol alike.name, alike.kind⟩
  have docs := hides.docs block.info block'.info
  refine agree_hostHandle.bind fun handle => ?_
  refine agreeBy_bind (agreeBy_mapM (Code.Field.seen view) (fun nodes => ?_) fields)
    fun values values' same => ?_
  · exact agreeBy_fieldOf hides owners nodes
  refine agreeBy_bind (agreeBy_mapM (Code.Field.seen view) (fun methods => ?_) calls)
    fun called called' sames => agreeBy_get fun p q alike => ?_
  · exact agreeBy_methodFieldOf hides owners.kind methods
  rw [alike.symbol]
  exact agreeBy_pure (by simp only [Code.Declaration.seen, docs, List.map_append, same, sames])

theorem blockEvents_alike (alike : block.Alike block') :
    List.Forall₂ Event.Alike (blockEvents block) (blockEvents block') := by
  unfold blockEvents
  rw [alike.kind]
  split
  · exact alike.events
  · exact alike.instanceEvents
  · exact .nil

theorem blockProperties_alike (alike : block.Alike block') :
    List.Forall₂ (PropertyNode.Alike Eq) (blockProperties block)
      (blockProperties block') := by
  unfold blockProperties
  rw [alike.kind]
  split
  · exact below_alike (.same default) rfl _ alike.instanceProperties
  · exact below_alike (.same default) rfl _ alike.properties

theorem blockMethods_alike (alike : block.Alike block') :
    List.Forall₂ (MethodNode.Alike Eq) (blockMethods block) (blockMethods block') := by
  unfold blockMethods
  rw [alike.kind]
  split
  · exact methods_below_alike _ _ alike.methods
  · exact methods_below_alike _ _ alike.instanceMethods
  · exact .nil

/-- The primary declarations of two blocks that are alike. -/
theorem agree_declareBlock (hides : generator.Hides value view)
    (declares : DeclaresAlike (.beside generator sinks) value view)
    (alike : block.Alike block') :
    Agree (Pass.Alike (.beside generator sinks)) (generator.declareBlock block)
      ((generator.commenting value).declareBlock block') := by
  have omitted : Agree (Pass.Alike (.beside generator sinks)) (noteOmitted block)
      (noteOmitted block') := by
    unfold noteOmitted
    simp only [alike.name, alike.kind, isEmpty_eq_of_forall₂ alike.staticMethods,
      alike.constructorMethod]
    exact agree_ite (agree_note _ _) (agree_pure ())
  refine agree_bind omitted fun _ =>
    agree_bind (agree_declareEvents hides declares (blockEvents_alike alike)) fun _ =>
      AgreeBy.bind (agreeBy_structureOf hides alike rfl ?_ ?_) declares
  · exact blockProperties_alike alike
  · exact blockMethods_alike alike

/-! ### Passes -/

theorem nodeCounts_eq_of_alike {waiting waiting' : List Pending}
    (alike : List.Forall₂ (generator.PendingAlike Eq) waiting waiting') :
    nodeCounts (waiting.map (·.node.property)) = nodeCounts (waiting'.map (·.node.property)) := by
  induction alike with
  | nil => rfl
  | cons first _ ih =>
    simp only [List.map_cons, nodeCounts, nodeCount_eq_of_shape_eq first.shape, ih]

/-- What waits is declared alike, one after another. -/
theorem agree_drainUpTo (hides : generator.Hides value view)
    (declares : DeclaresAlike (.beside generator sinks) value view) (limit : Nat) :
    Agree (Pass.Alike (.beside generator sinks)) (generator.drainUpTo limit)
      ((generator.commenting value).drainUpTo limit) := by
  induction limit with
  | zero => exact agree_pure 0
  | succ limit ih =>
    unfold drainUpTo
    refine agree_get fun p q alike => ?_
    -- what waits in the two passes is paired, so both queues are empty or none is
    have waiting := alike.pending
    revert waiting
    cases queue : p.scope.pending <;> cases queue' : q.scope.pending <;> intro waiting
    case nil.nil => exact agree_pure 0
    case nil.cons => cases waiting
    case cons.nil => cases waiting
    case cons.cons =>
      obtain ⟨first, others⟩ := List.forall₂_cons.mp waiting
      refine agree_bind (agree_set { alike with pending := others }) fun _ => ?_
      refine agree_bind (AgreeBy.bind (agreeBy_pendingDeclaration hides first) declares) fun _ => ?_
      refine agree_bind (agree_modify fun _ _ alike => { alike with }) fun _ => ?_
      exact agree_bind ih fun _ => agree_pure _

/-- The passes of two blocks that are alike. -/
theorem agree_emission (hides : generator.Hides value view)
    (declares : DeclaresAlike (.beside generator sinks) value view)
    (alike : block.Alike block') :
    Agree (Pass.Alike (.beside generator sinks)) (generator.emission block)
      ((generator.commenting value).emission block') := by
  unfold emission drain
  refine agree_bind (agree_declareBlock hides declares alike) fun _ => agree_get fun p q alike => ?_
  dsimp only
  -- the limit is a number of nodes, which the shapes determine
  rw [nodeCounts_eq_of_alike alike.pending]
  exact agree_drainUpTo hides declares _

/-- The passes of alike blocks start alike, or cannot start for one reason. -/
theorem start_alike (generator : Generator) (value : Json) (alike : block.Alike block')
    (paired : sinks.paired { blockName := block.name } { blockName := block'.name })
    (reserved : List String) :
    (∃ fault, Pass.start generator block reserved = .error fault ∧
      Pass.start (generator.commenting value) block' reserved = .error fault) ∨
    ∃ start start', Pass.start generator block reserved = .ok start ∧
      Pass.start (generator.commenting value) block' reserved = .ok start' ∧
      Pass.Alike (.beside generator sinks) start start' := by
  have symbols : (generator.commenting value).baseSymbol block'.info =
      generator.baseSymbol block.info :=
    (baseSymbol_eq generator alike.name alike.kind).symm
  have stems : (generator.commenting value).stem block'.info = generator.stem block.info :=
    (stem_eq generator alike.name alike.kind).symm
  simp only [Pass.start, symbols, stems]
  cases generator.baseSymbol block.info with
  | error fault => exact .inl ⟨fault, rfl, rfl⟩
  | ok symbol =>
    cases generator.stem block.info with
    | error fault => exact .inl ⟨fault, rfl, rfl⟩
    | ok stem =>
      refine .inr ⟨_, _, rfl, rfl, alike.name, rfl, rfl, rfl, rfl, ?_, .nil, paired, rfl, rfl, rfl⟩
      rintro i j rfl
      rfl

end Blocks

end HostBindings.Generator
