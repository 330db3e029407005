import HostBindings.Proofs.Emission.Drain
import HostBindings.Proofs.Reserved.Passes

/-!
# Declarations beside one more taken name

Two passes of one block stay side by side through everything that is written for the block, from the
types of single properties up to a whole pass. What waits in the two passes may have different
names, but it is declared for the same nodes; so both passes declare as much and in the same order.

## Main results

* `Generator.follows_slotOf`, `Generator.follows_signatureOf`, `Generator.follows_fieldOf`
* `Generator.follows_pendingDeclaration` — what waits for one node
* `Generator.follows_emission` — a whole pass
* `Generator.beside_start` — passes that start side by side
-/

namespace HostBindings.Generator

open Emit
open Api (Block Event PossibleValue)

variable {extra : String} {together : Prop} {generator : Generator}

/-! ### Fields, parameters and results -/

theorem follows_useType (type : BindingType) :
    Follows extra together (useType type) (useType type) :=
  follows_forM (fun _ _ => follows_requireImport) _

theorem follows_typeNameOf (node : PropertyNode) (parent : Option Entity) :
    Follows extra together (generator.typeNameOf node parent)
      (generator.typeNameOf node parent) := by
  have nested {kind : PendingKind} (composite : kind = .composite → node.property.kind ≠ .basic) :
      Follows extra together
        (do return Code.TypeName.nested (← Emit.register generator kind node parent))
        (do return Code.TypeName.nested (← Emit.register generator kind node parent)) :=
    follows_bind (follows_register generator composite parent) fun _ _ _ _ same =>
      follows_pure fun still => by rw [same still]
  unfold typeNameOf
  split
  · exact nested nofun
  split
  · exact follows_setting_bind _ fun type _ =>
      follows_bind (follows_useType type) fun _ _ _ _ _ => follows_pure fun _ => rfl
  next composite => exact nested fun _ => composite

theorem follows_slotOf (node : PropertyNode) (parent : Option Entity) :
    Follows extra together (generator.slotOf node parent) (generator.slotOf node parent) :=
  follows_setting_bind _ fun _ _ => follows_bind (follows_typeNameOf node parent)
    fun _ _ _ _ same => follows_pure fun still => by rw [same still]

theorem follows_signatureOf (owner : Entity) (parameters : List PropertyNode)
    (result? : Option PropertyNode) :
    Follows extra together (generator.signatureOf owner parameters result?)
      (generator.signatureOf owner parameters result?) := by
  refine follows_bind (follows_mapM (fun _ _ node => follows_slotOf node _) parameters)
    fun _ _ slots slots' same => ?_
  cases result? with
  | none => exact follows_pure fun still => by rw [same still]
  | some node =>
    exact follows_bind (follows_slotOf node _) fun _ kept _ _ same' =>
      follows_pure fun still => by rw [same (kept still), same' still]

theorem follows_fieldOf (parent : Entity) (node : PropertyNode) :
    Follows extra together (generator.fieldOf parent node) (generator.fieldOf parent node) :=
  follows_bind (follows_slotOf node _) fun _ _ _ _ same =>
    follows_pure fun still => by rw [same still]

theorem follows_methodFieldOf (parent : Entity) (node : MethodNode) :
    Follows extra together (generator.methodFieldOf parent node)
      (generator.methodFieldOf parent node) := by
  have signature : Follows extra together (generator.methodTypeOf node)
      (generator.methodTypeOf node) :=
    follows_bind (follows_signatureOf _ _ _) fun _ _ _ _ same =>
      follows_setting_bind _ fun _ _ => follows_pure fun still => by rw [same still]
  exact follows_bind signature fun _ _ _ _ same => follows_pure fun still => by rw [same still]

theorem follows_hostHandle :
    Follows extra together generator.hostHandle generator.hostHandle :=
  follows_setting_bind _ fun handle _ =>
    follows_bind (follows_useType handle) fun _ _ _ _ _ => follows_pure fun _ => rfl

/-! ### Blocks -/

theorem follows_checkedConstant (event : Event) :
    Follows extra together (generator.checkedConstant event) (generator.checkedConstant event) := by
  have checked : Follows extra together (generator.checkEventName event.info.name)
      (generator.checkEventName event.info.name) := by
    unfold checkEventName
    exact follows_ite (follows_pure fun _ => rfl)
      (follows_ite (follows_throw _) (follows_warn fun _ => rfl))
  refine follows_bind checked fun _ _ _ _ _ => follows_setting_bind _ fun lead _ => ?_
  refine follows_setting_bind _ fun symbol _ => follows_get fun p q beside => ?_
  refine follows_bind (follows_claim fun still => ?_) fun _ _ _ _ same =>
    follows_pure fun still => by rw [same still]
  obtain ⟨names, rfl, -⟩ := beside.same still
  rfl

theorem follows_declareEvents (builtin : generator.templates = .builtin) (events : List Event) :
    Follows extra together (generator.declareEvents events) (generator.declareEvents events) := by
  have declaration : Follows extra together (generator.eventsDeclaration events)
      (generator.eventsDeclaration events) := by
    refine follows_bind (follows_mapM (fun _ _ => follows_checkedConstant) events)
      fun _ _ constants constants' same => follows_get fun p q beside => ?_
    refine follows_pure fun still => ?_
    obtain ⟨names, rfl, -⟩ := beside.same still
    rw [same still]
  unfold declareEvents
  exact follows_ite (follows_bind declaration fun _ _ _ _ => follows_declare builtin)
    (follows_pure fun _ => rfl)

theorem follows_structureOf (block : Block) (properties : List PropertyNode)
    (methods : List MethodNode) :
    Follows extra together (generator.structureOf block properties methods)
      (generator.structureOf block properties methods) := by
  refine follows_bind follows_hostHandle fun _ _ handle handle' same => ?_
  refine follows_bind (follows_mapM (fun _ _ => follows_fieldOf _) properties)
    fun _ kept fields fields' same' => ?_
  refine follows_bind (follows_mapM (fun _ _ => follows_methodFieldOf _) methods)
    fun _ kept' calls calls' same'' => ?_
  refine follows_get fun p q beside => follows_pure fun still => ?_
  obtain ⟨names, rfl, -⟩ := beside.same still
  rw [same (kept (kept' still)), same' (kept' still), same'' still]

/-- The primary declarations of a block. -/
theorem follows_declareBlock (builtin : generator.templates = .builtin) (block : Block) :
    Follows extra together (generator.declareBlock block) (generator.declareBlock block) := by
  have omitted : Follows extra together (noteOmitted block) (noteOmitted block) := by
    unfold noteOmitted
    exact follows_ite (follows_note _ fun _ => rfl) (follows_pure fun _ => rfl)
  exact follows_bind omitted fun _ _ _ _ _ =>
    follows_bind (follows_declareEvents builtin _) fun _ _ _ _ _ =>
      follows_bind (follows_structureOf _ _ _) fun _ _ _ _ => follows_declare builtin

/-! ### Declarations that wait -/

theorem follows_enumBaseType {kind : PendingKind} {name name' : String} (node : PropertyNode)
    (same : together → name = name') :
    Follows extra together (generator.enumBaseType ⟨kind, name, node⟩)
      (generator.enumBaseType ⟨kind, name', node⟩) := by
  refine follows_setting_bind _ fun type _ => ?_
  dsimp only
  split
  · exact follows_pure fun _ => rfl
  · exact follows_pure fun _ => rfl
  · exact follows_bind (follows_warn fun still => by rw [same still]) fun _ _ _ _ _ =>
      follows_pure fun _ => rfl

theorem follows_memberOf {name name' : String} {quoted quoted' : Bool}
    (names : together → name = name') (quotes : together → quoted = quoted')
    (value : PossibleValue) :
    Follows extra together (generator.memberOf name quoted value)
      (generator.memberOf name' quoted' value) := by
  refine follows_setting_bind _ fun symbol _ => ?_
  exact follows_bind (follows_claim fun still => by rw [names still]) fun _ kept _ _ same =>
    follows_pure fun still => by rw [same still, quotes (kept still)]

/-- The declarations that wait for one node in two passes. -/
theorem follows_pendingDeclaration {pending pending' : Pending}
    (beside : pending.Beside pending') (same : together → pending = pending') :
    Follows extra together (generator.pendingDeclaration pending)
      (generator.pendingDeclaration pending') := by
  obtain ⟨kind, name, node⟩ := pending
  obtain ⟨_, name', _⟩ := pending'
  obtain ⟨rfl, rfl, composite⟩ := beside
  -- the declarations are the same as long as the passes have not parted
  have names : together → name = name' := fun still => congrArg (·.name) (same still)
  have enumerations : Follows extra together (generator.enumerationOf ⟨kind, name, node⟩)
      (generator.enumerationOf ⟨kind, name', node⟩) := by
    refine follows_bind (follows_enumBaseType node names) fun _ kept base base' bases => ?_
    refine follows_bind (follows_mapM (fun _ kept' value => ?_) _) fun _ kept' _ _ members => ?_
    · exact follows_memberOf (fun still => names (kept (kept' still)))
        (fun still => by rw [bases (kept' still)]) value
    · exact follows_pure fun still => by
        rw [names (kept (kept' still)), bases (kept' still), members still]
  have functions : Follows extra together (generator.functionOf ⟨kind, name, node⟩)
      (generator.functionOf ⟨kind, name', node⟩) :=
    follows_bind (follows_signatureOf _ _ _) fun _ kept _ _ same =>
      follows_pure fun still => by rw [names (kept still), same still]
  have composites : Follows extra together (generator.compositeOf ⟨kind, name, node⟩)
      (generator.compositeOf ⟨kind, name', node⟩) := by
    refine follows_bind follows_hostHandle fun _ kept handle handle' same => ?_
    refine follows_bind (follows_mapM (fun _ _ => follows_fieldOf _) _) fun _ kept' _ _ fields => ?_
    exact follows_pure fun still => by
      rw [names (kept (kept' still)), same (kept' still), fields still]
  unfold pendingDeclaration
  dsimp only at composite ⊢
  split
  · exact enumerations
  · exact functions
  next basic => exact absurd basic (composite rfl)
  · exact composites

theorem follows_declarePending (builtin : generator.templates = .builtin)
    {pending pending' : Pending} (beside : pending.Beside pending')
    (same : together → pending = pending') :
    Follows extra together (generator.declarePending pending)
      (generator.declarePending pending') :=
  follows_bind (follows_pendingDeclaration beside same) fun _ _ _ _ => follows_declare builtin

/-! ### Whole passes -/

/-- Declarations that wait: by induction on the limit, since more of them are queued on the way. -/
theorem follows_drainUpTo (builtin : generator.templates = .builtin) (limit : Nat) :
    Follows extra together (generator.drainUpTo limit) (generator.drainUpTo limit) := by
  induction limit generalizing together with
  | zero => exact follows_pure fun _ => rfl
  | succ limit ih =>
    refine follows_get fun p q beside => ?_
    have waiting := beside.pending
    have equal : together → p.scope.pending = q.scope.pending := fun still => by
      obtain ⟨names, rfl, -⟩ := beside.same still
      rfl
    -- as many declarations wait in one pass as in the other
    cases queued : p.scope.pending <;> cases queued' : q.scope.pending <;>
      rw [queued, queued'] at waiting equal
    case nil.nil => exact follows_pure fun _ => rfl
    case cons.cons pending rest pending' rest' =>
      obtain ⟨first, others⟩ := List.forall₂_cons.mp waiting
      have same : together → pending = pending' := fun still => (List.cons.inj (equal still)).1
      refine follows_bind (follows_set { beside with pending := others, same := ?_ })
        fun _ kept _ _ _ => ?_
      · intro still
        obtain ⟨names, rfl, grown⟩ := beside.same still
        exact ⟨names, by rw [(List.cons.inj (equal still)).2], grown⟩
      refine follows_bind (follows_declarePending builtin first (same ∘ kept))
        fun _ kept' _ _ _ => ?_
      refine follows_bind (follows_modify fun p q beside => ?_) fun _ _ _ _ _ =>
        follows_bind ih fun _ _ _ _ counts => follows_pure fun still => by rw [counts still]
      refine { beside with same := fun still => ?_ }
      obtain ⟨names, rfl, grown⟩ := beside.same still
      exact ⟨names, by rw [same (kept (kept' still))], grown⟩
    all_goals cases waiting

/-- A whole pass keeps the passes side by side. -/
theorem follows_emission (builtin : generator.templates = .builtin) (block : Block) :
    Follows extra together (generator.emission block) (generator.emission block) := by
  refine follows_bind (follows_declareBlock builtin block) fun _ _ _ _ _ => ?_
  refine follows_get fun p q beside => ?_
  have nodes : p.scope.pending.map (·.node.property) = q.scope.pending.map (·.node.property) :=
    forall₂_map_eq beside.pending fun pair => by rw [pair.node]
  dsimp only
  rw [nodes]
  exact follows_drainUpTo builtin _

/-- Passes of one block start side by side where its symbol is taken and one name more. -/
theorem beside_start {block : Block} {reserved reserved' : List String} {start : Pass}
    (grown : ∀ name, name ∈ reserved' ↔ name ∈ reserved ∨ name = extra)
    (started : Pass.start generator block reserved = .ok start)
    (taken : start.scope.symbol ∈ reserved) :
    ∃ start', Pass.start generator block reserved' = .ok start' ∧
      start'.scope.symbol = start.scope.symbol ∧ Pass.Beside extra True start start' := by
  obtain ⟨symbol, stem, spelt, named, rfl⟩ := start_eq_ok.mp started
  refine ⟨_, start_eq_ok.mpr ⟨symbol, stem, spelt, named, rfl⟩, rfl, ?_⟩
  have taken' : symbol ∈ reserved' := (grown symbol).mpr (.inl taken)
  refine ⟨rfl, rfl, .nil, rfl, rfl, rfl, fun _ => ⟨reserved', ?_, ?_⟩, absurd trivial⟩
  · simp [Scope.start, taken']
  · intro name
    have names : (Scope.start symbol stem reserved).names = reserved := if_pos taken
    change _ ↔ name ∈ (Scope.start symbol stem reserved).names ∨ _
    rw [names, grown]

end HostBindings.Generator
