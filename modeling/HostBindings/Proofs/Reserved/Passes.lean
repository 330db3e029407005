import HostBindings.Proofs.Emission.Progress
import HostBindings.Proofs.Names.Table

/-!
# Passes beside one more taken name

Two passes of one block go side by side, and one name more is taken in the second one. As long as
the first pass does not claim that name, both do the same. Once it does, the two have parted: from
there on their names may differ. But what they do next depends on no name, so even then both come
to an end in the same way, and fail with the same fault if they fail.

## Main definitions

* `Pending.Beside` — what waits in two passes, maybe under different names
* `Pass.Beside` — the states of two passes that go side by side
* `Emit.Follows` — actions that keep passes side by side

## Main results

* `Emit.follows_bind`, `Emit.follows_get`, `Emit.follows_mapM` — composed actions
* `Emit.follows_claim` — the one action at which two passes can part
* `Emit.follows_register`, `Emit.follows_declare`
-/

namespace HostBindings

variable {extra : String} {together : Prop}

/-! ### Side by side -/

/-- Two declarations wait for one node, maybe under different names. -/
structure Pending.Beside (a b : Pending) : Prop where
  /-- They describe the same. -/
  kind : a.kind = b.kind
  /-- They wait for one node. -/
  node : a.node = b.node
  /-- What waits as a composite is one. -/
  composite : a.kind = .composite → a.node.property.kind ≠ .basic

/-- The states of two passes of one block, where the name `extra` is taken in the second one. While
`together` holds, they are the same but for that name. It fails only once the first pass has claimed
the name. -/
structure Pass.Beside (extra : String) (together : Prop) (p q : Pass) : Prop where
  /-- The same entities have names. -/
  shapes : p.scope.shapes.map (·.1) = q.scope.shapes.map (·.1)
  /-- The same nodes have names. -/
  given : p.scope.given.map (·.1) = q.scope.given.map (·.1)
  /-- The same nodes wait. -/
  pending : List.Forall₂ Pending.Beside p.scope.pending q.scope.pending
  /-- Both sinks are for one block. -/
  blockName : p.sink.blockName = q.sink.blockName
  /-- Both sinks are open, or none is. -/
  isOpen : p.sink.isOpen = q.sink.isOpen
  /-- As many sections are written. -/
  sections : p.sections = q.sections
  /-- The states are the same but for the one name. -/
  same : together → ∃ names, q = { p with scope := { p.scope with names } } ∧
    ∀ name, name ∈ names ↔ name ∈ p.scope.names ∨ name = extra
  /-- Passes that have parted did so where the first one claimed the name. -/
  parted : ¬ together → extra ∈ p.scope.names

/-- Lists with the same keys have an entry for the same ones. -/
theorem isSome_lookup_eq {κ α : Type} [BEq κ] {entries others : List (κ × α)}
    (keys : entries.map (·.1) = others.map (·.1)) (key : κ) :
    (entries.lookup key).isSome = (others.lookup key).isSome := by
  induction entries generalizing others with
  | nil =>
    rw [List.map_nil, eq_comm, List.map_eq_nil_iff] at keys
    rw [keys]
  | cons entry rest ih =>
    cases others with
    | nil => cases keys
    | cons other more =>
      obtain ⟨first, behind⟩ := List.cons.inj keys
      obtain ⟨own, value⟩ := entry
      obtain ⟨_, value'⟩ := other
      cases first
      rw [List.lookup_cons, List.lookup_cons]
      split
      · rfl
      · exact ih behind

namespace Emit

variable {α β γ : Type}

/-- How two actions end: with the same fault, or with values that are the same while `together`
holds. -/
inductive Ends (together : Prop) : Except PassFault α → Except PassFault α → Prop where
  /-- Both fail. -/
  | failed (fault : PassFault) : Ends together (.error fault) (.error fault)
  /-- Both succeed. -/
  | done {a b : α} : (together → a = b) → Ends together (.ok a) (.ok b)

/-- Two actions keep passes side by side. The passes may part on the way. -/
def Follows (extra : String) (together : Prop) (action action' : Emit α) : Prop :=
  ∀ p q, Pass.Beside extra together p q →
    ∃ later : Prop, (later → together) ∧
      Pass.Beside extra later (action.outcome p).2 (action'.outcome q).2 ∧
      Ends later (action.outcome p).1 (action'.outcome q).1

/-! ### Composed actions -/

theorem follows_pure {a b : α} (same : together → a = b) :
    Follows extra together (pure a) (pure b) :=
  fun _ _ beside => ⟨together, id, beside, .done same⟩

theorem follows_throw (fault : PassFault) :
    Follows extra together (throw fault : Emit α) (throw fault) :=
  fun _ _ beside => ⟨together, id, beside, .failed fault⟩

theorem follows_bind {action action' : Emit α} {next next' : α → Emit β}
    (first : Follows extra together action action')
    (second : ∀ later : Prop, (later → together) → ∀ a b, (later → a = b) →
      Follows extra later (next a) (next' b)) :
    Follows extra together (action >>= next) (action' >>= next') := by
  intro p q beside
  obtain ⟨later, kept, beside, ends⟩ := first p q beside
  simp only [outcome_bind]
  rcases ran : action.outcome p with ⟨result, m⟩
  rcases ran' : action'.outcome q with ⟨result', m'⟩
  rw [ran, ran'] at beside ends
  cases ends with
  | failed fault => exact ⟨later, kept, beside, .failed fault⟩
  | done same =>
    obtain ⟨last, kept', beside, ends⟩ := second later kept _ _ same m m' beside
    exact ⟨last, kept ∘ kept', beside, ends⟩

/-- What is done next may depend on the states, as long as these are side by side. -/
theorem follows_get {next next' : Pass → Emit α}
    (second : ∀ p q, Pass.Beside extra together p q → Follows extra together (next p) (next' q)) :
    Follows extra together (get >>= next) (get >>= next') := by
  intro p q beside
  simp only [outcome_bind, outcome_get]
  exact second p q beside p q beside

theorem follows_set {p q : Pass} (beside : Pass.Beside extra together p q) :
    Follows extra together (set p) (set q) :=
  fun _ _ _ => ⟨together, id, beside, .done fun _ => rfl⟩

theorem follows_modify {change change' : Pass → Pass}
    (keeps : ∀ p q, Pass.Beside extra together p q →
      Pass.Beside extra together (change p) (change' q)) :
    Follows extra together (modify change) (modify change') :=
  fun p q beside => ⟨together, id, keeps p q beside, .done fun _ => rfl⟩

theorem follows_ite {c : Prop} [Decidable c] {yes yes' no no' : Emit α}
    (left : Follows extra together yes yes') (right : Follows extra together no no') :
    Follows extra together (if c then yes else no) (if c then yes' else no') := by
  split
  · exact left
  · exact right

/-- A setting is the same in both passes, even if these have parted. -/
theorem follows_setting_bind (result : Except UseFault α) {next next' : α → Emit β}
    (second : ∀ a, result = .ok a → Follows extra together (next a) (next' a)) :
    Follows extra together (setting result >>= next) (setting result >>= next') := by
  cases result with
  | ok a => exact second a rfl
  | error fault => exact follows_throw (.setting fault)

/-- A list gone through item by item. -/
theorem follows_mapM {f g : γ → Emit α}
    (each : ∀ later : Prop, (later → together) → ∀ item, Follows extra later (f item) (g item))
    (items : List γ) : Follows extra together (items.mapM f) (items.mapM g) := by
  induction items generalizing together with
  | nil => exact follows_pure fun _ => rfl
  | cons item rest ih =>
    rw [List.mapM_cons, List.mapM_cons]
    refine follows_bind (each together id item) fun later kept result result' same => ?_
    have others := ih fun last kept' item => each last (kept ∘ kept') item
    refine follows_bind others fun last kept' results results' all => ?_
    exact follows_pure fun still => by rw [same (kept' still), all still]

theorem follows_forM {f : γ → Emit PUnit}
    (each : ∀ later : Prop, (later → together) → ∀ item, Follows extra later (f item) (f item))
    (items : List γ) : Follows extra together (items.forM f) (items.forM f) := by
  induction items generalizing together with
  | nil => exact follows_pure fun _ => rfl
  | cons item rest ih =>
    exact follows_bind (each together id item) fun later kept _ _ _ =>
      ih fun last kept' item => each last (kept ∘ kept') item

/-! ### Text and reports -/

theorem follows_note (level : Level) {message message' : String}
    (same : together → message = message') :
    Follows extra together (note level message) (note level message') := by
  refine follows_modify fun p q beside => { beside with same := fun still => ?_ }
  obtain ⟨names, rfl, grown⟩ := beside.same still
  exact ⟨names, by rw [same still], grown⟩

theorem follows_warn {message message' : String} (same : together → message = message') :
    Follows extra together (warn message) (warn message') := by
  refine follows_get fun p q beside => ?_
  refine follows_bind (follows_note .warning fun still => ?_) fun later kept _ _ _ => ?_
  · obtain ⟨names, rfl, -⟩ := beside.same still
    rw [same still]
  · refine follows_modify fun p q beside => { beside with same := fun still => ?_ }
    obtain ⟨names, rfl, grown⟩ := beside.same still
    exact ⟨names, by rw [same (kept still)], grown⟩

theorem follows_requireImport (path : Json) :
    Follows extra together (requireImport path) (requireImport path) := by
  unfold requireImport
  refine follows_ite ?_ (follows_pure fun _ => rfl)
  refine follows_setting_bind _ fun path _ => ?_
  refine follows_modify fun p q beside => { beside with same := fun still => ?_ }
  obtain ⟨names, rfl, grown⟩ := beside.same still
  exact ⟨names, rfl, grown⟩

theorem follows_write {text text' : String} (same : together → text = text') :
    Follows extra together (write text) (write text') := by
  refine follows_get fun p q beside => ?_
  have either := beside.isOpen
  cases opened : q.sink.isOpen <;> rw [opened] at either
  · simp only [Sink.write?, opened, either, Bool.false_eq_true, if_false, beside.blockName]
    exact follows_throw _
  · simp only [Sink.write?, opened, either, if_true]
    refine follows_set { beside with isOpen := rfl, same := fun still => ?_ }
    obtain ⟨names, rfl, grown⟩ := beside.same still
    exact ⟨names, by rw [same still], grown⟩

theorem follows_writeTrimmed {text text' : String} (same : together → text = text') :
    Follows extra together (writeTrimmed text) (writeTrimmed text') := by
  refine follows_get fun p q beside => ?_
  rw [beside.sections]
  have last (later : Prop) (kept : later → together) : Follows extra later
      (do write text; modify fun pass => { pass with sections := pass.sections + 1 })
      (do write text'; modify fun pass => { pass with sections := pass.sections + 1 }) := by
    refine follows_bind (follows_write (same ∘ kept)) fun _ _ _ _ _ => ?_
    refine follows_modify fun p q beside =>
      { beside with sections := by rw [beside.sections], same := fun still => ?_ }
    obtain ⟨names, rfl, grown⟩ := beside.same still
    exact ⟨names, rfl, grown⟩
  exact follows_ite (follows_bind (follows_write fun _ => rfl) fun later kept _ _ _ =>
    last later kept) (last together id)

/-- Declarations are written in both passes, whatever their names are: every one of them has a
text. -/
theorem follows_declare {generator : Generator} (builtin : generator.templates = .builtin)
    {declaration declaration' : Code.Declaration}
    (same : together → declaration = declaration') :
    Follows extra together (declare generator declaration) (declare generator declaration') := by
  simp only [declare, render, builtin, Template.render_builtin, pure_bind,
    Code.Declaration.sectionText?_printed]
  refine follows_bind (follows_writeTrimmed fun still => by rw [same still])
    fun later kept _ _ _ => ?_
  refine follows_modify fun p q beside => { beside with same := fun still => ?_ }
  obtain ⟨names, rfl, grown⟩ := beside.same still
  exact ⟨names, by rw [same (kept still)], grown⟩

/-! ### Names -/

/-- Two passes claim names. They part where the first one claims the one more name that is taken in
the second. -/
theorem follows_claim {candidate candidate' : String} (same : together → candidate = candidate') :
    Follows extra together (claim candidate) (claim candidate') := by
  intro p q beside
  simp only [outcome_claim]
  by_cases still : together ∧ freshName p.scope.names candidate ≠ extra
  · obtain ⟨both, other⟩ := still
    obtain ⟨names, rfl, grown⟩ := beside.same both
    have fresh := freshName_eq_of_mem_iff grown other
    rw [← same both]
    refine ⟨together, id, { beside with same := fun _ => ?_, parted := absurd both }, ?_⟩
    · refine ⟨names ++ [freshName p.scope.names candidate], by simp only [Scope.claim, fresh], ?_⟩
      intro name
      simp only [Scope.claim, List.mem_append, grown]
      tauto
    · exact .done fun _ => fresh.symm
  · -- here the passes part, unless they have parted before
    refine ⟨False, False.elim, { beside with same := False.elim, parted := fun _ => ?_ },
      .done False.elim⟩
    simp only [Scope.claim, List.mem_append, List.mem_singleton]
    by_cases both : together
    · exact .inr (Decidable.not_not.mp fun other => still ⟨both, Ne.symm other⟩)
    · exact .inl (beside.parted both)

theorem follows_scopeFor (generator : Generator) (parent : Option Entity) :
    Follows extra together (scopeFor generator parent) (scopeFor generator parent) := by
  refine follows_get fun p q beside => ?_
  have stems : together → p.scope.stem = q.scope.stem := fun still => by
    obtain ⟨names, rfl, -⟩ := beside.same still
    rfl
  have names : together → p.scope.given = q.scope.given := fun still => by
    obtain ⟨names, rfl, -⟩ := beside.same still
    rfl
  cases parent with
  | none => exact follows_pure stems
  | some owner =>
    by_cases block : owner.id = .block
    · simp only [Scope.scopeFor, block, if_true]
      exact follows_pure stems
    -- an owner has a name in both passes or in none, if not the same one
    have there := isSome_lookup_eq beside.given owner.id
    simp only [Scope.scopeFor, block, if_false]
    cases found : p.scope.given.lookup owner.id <;> cases found' : q.scope.given.lookup owner.id
    case none.none =>
      cases generator.symbol owner.info.name with
      | error fault => exact follows_throw _
      | ok symbol => exact follows_pure fun still => by rw [stems still]
    case some.some name name' =>
      refine follows_pure fun still => ?_
      rw [names still, found'] at found
      exact Option.some.inj found.symm
    all_goals simp [found, found'] at there

/-- An entity gets a name in both passes, or has one in both. -/
theorem follows_register (generator : Generator) {kind : PendingKind} {node : PropertyNode}
    (composite : kind = .composite → node.property.kind ≠ .basic) (parent : Option Entity) :
    Follows extra together (register generator kind node parent)
      (register generator kind node parent) := by
  refine follows_setting_bind _ fun symbol _ => follows_get fun p q beside => ?_
  -- the shape was met in both passes or in none
  have there := isSome_lookup_eq beside.shapes ⟨kind, symbol, node.property.shape⟩
  cases found : p.scope.shapes.lookup ⟨kind, symbol, node.property.shape⟩ <;>
    cases found' : q.scope.shapes.lookup ⟨kind, symbol, node.property.shape⟩
  case some.some name name' =>
    have same : together → name = name' := fun still => by
      obtain ⟨names, rfl, -⟩ := beside.same still
      exact Option.some.inj (found.symm.trans found')
    exact follows_bind (follows_note _ fun still => by rw [same still]) fun _ kept _ _ _ =>
      follows_pure (same ∘ kept)
  case none.none =>
    refine follows_bind (follows_scopeFor generator parent) fun _ _ lead lead' leads => ?_
    refine follows_bind (follows_claim fun still => by rw [leads still])
      fun _ _ name name' same => ?_
    refine follows_bind (follows_modify fun p q beside => ?_) fun _ kept _ _ _ =>
      follows_pure (same ∘ kept)
    exact { beside with
      shapes := by simp [beside.shapes]
      given := by simp [beside.given]
      pending := List.rel_append beside.pending (.cons ⟨rfl, rfl, composite⟩ .nil)
      same := fun still => by
        obtain ⟨names, rfl, grown⟩ := beside.same still
        exact ⟨names, by rw [same still], grown⟩ }
  all_goals simp [found, found'] at there

end Emit

end HostBindings
