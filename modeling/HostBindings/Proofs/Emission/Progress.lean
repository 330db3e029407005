import HostBindings.Proofs.Emission.Declarations
import HostBindings.Proofs.Printing.Templates

/-!
# What a pass has written

Between two declarations, a pass has written some declarations and has others waiting. This file
states what then holds and that writing one more declaration keeps it: the names that are written or
wait are those of the block and the claimed ones, each once; what waits was queued in the order in
which names were given; the text is the text of the declarations.

## Main definitions

* `Accounts` — taken names against written and waiting ones
* `Code.textOf` — the text of declarations
* `PropertyNode.Descends` — the nodes at some depth below others
* `Generator.Progress` — the state of a pass between two declarations

## Main results

* `Accounts.write` — one more declaration
* `Generator.runs_declare` — what writing a declaration changes
* `PropertyNode.Descends.closed` — what goes down to all nodes below
* `Generator.Progress.step` — one more declaration that waited
-/

namespace HostBindings

open Api (Block Property)

/-! ### Accounts of names -/

/-- The names that are written or wait are those of an owner and the ones that were claimed beyond
the names taken before, each once. -/
def Accounts (taken own names written waiting : List String) : Prop :=
  ∃ claimed, names = taken ++ claimed ∧ claimed.Nodup ∧ (∀ name ∈ claimed, name ∉ taken) ∧
    (written ++ waiting).Perm (own ++ claimed)

theorem Accounts.start (taken : List String) : Accounts taken [] taken [] [] :=
  ⟨[], by simp⟩

/-- Names of the owner are written. -/
theorem Accounts.own {taken own names written waiting : List String} (more : List String)
    (accounts : Accounts taken own names written waiting) :
    Accounts taken (own ++ more) names (written ++ more) waiting := by
  obtain ⟨claimed, same, nodup, fresh, perm⟩ := accounts
  refine ⟨claimed, same, nodup, fresh, ?_⟩
  rw [List.perm_iff_count] at perm ⊢
  intro other
  have count := perm other
  simp only [List.count_append] at count ⊢
  omega

/-- A declaration is written: its first names waited, the others are claimed for it, and more names
wait that are claimed too. -/
theorem Accounts.write {taken own names written waiting lead queued extra : List String}
    (accounts : Accounts taken own names written (lead ++ waiting))
    (nodup : (queued ++ extra).Nodup) (fresh : ∀ name ∈ queued ++ extra, name ∉ names) :
    Accounts taken own (names ++ (queued ++ extra)) (written ++ (lead ++ extra))
      (waiting ++ queued) := by
  obtain ⟨claimed, rfl, once, old, perm⟩ := accounts
  refine ⟨claimed ++ (queued ++ extra), List.append_assoc .., ?_, ?_, ?_⟩
  · refine List.nodup_append.mpr ⟨once, nodup, ?_⟩
    rintro name early _ late rfl
    exact fresh name late (List.mem_append_right _ early)
  · intro name member
    rcases List.mem_append.mp member with early | late
    · exact old name early
    · exact fun taken => fresh name late (List.mem_append_left _ taken)
  · rw [List.perm_iff_count] at perm ⊢
    intro other
    have count := perm other
    simp only [List.count_append] at count ⊢
    omega

/-! ### Writing -/

/-- The text of declarations: a blank line between each two. -/
def Code.textOf (declarations : List Code.Declaration) : String :=
  "\n\n".intercalate (declarations.map (·.trimmed))

/-- The text of a pass is the text of its declarations. -/
structure Pass.Prints (pass : Pass) : Prop where
  /-- The text. -/
  text : pass.sink.text = Code.textOf pass.sink.declarations
  /-- The sections are counted. -/
  sections : pass.sections = pass.sink.declarations.length

/-- Growth writes nothing, so the text stays that of the declarations. -/
theorem Generator.Grows.prints {generator : Generator} {p q : Pass} {claimed : List String}
    {queued : List Queued} (grows : generator.Grows p q claimed queued) (before : p.Prints) :
    q.Prints where
  text := by rw [grows.text, grows.declarations, before.text]
  sections := by rw [grows.sections, grows.declarations, before.sections]

theorem Emit.runs_write {text : String} {p q : Pass} {u : PUnit}
    (run : Emit.Runs (Emit.write text) p u q) :
    q = { p with sink := { p.sink with text := p.sink.text ++ text } } := by
  simp only [Emit.write, Emit.runs_bind, Emit.runs_get] at run
  obtain ⟨_, _, ⟨rfl, rfl⟩, run⟩ := run
  split at run
  next sink found =>
    rw [Emit.runs_set] at run
    simp only [Sink.write?, Option.ite_none_right_eq_some, Option.some.injEq] at found
    rw [run, ← found.2]
  next => exact absurd run Emit.runs_throw

theorem Emit.runs_writeTrimmed {text : String} {p q : Pass} {u : PUnit}
    (run : Emit.Runs (Emit.writeTrimmed text) p u q) :
    q = { p with
      sink := { p.sink with
        text := p.sink.text ++ (if p.sections = 0 then text else "\n\n" ++ text) }
      sections := p.sections + 1 } := by
  simp only [Emit.writeTrimmed, Emit.runs_bind, Emit.runs_get] at run
  obtain ⟨_, _, ⟨rfl, rfl⟩, run⟩ := run
  split at run
  next later =>
    simp only [Emit.runs_bind, Emit.runs_modify] at run
    obtain ⟨_, _, gap, _, _, written, rfl⟩ := run
    rw [Emit.runs_write written, Emit.runs_write gap, if_neg later]
    simp [String.append_assoc]
  next first =>
    simp only [Emit.runs_bind, Emit.runs_modify] at run
    obtain ⟨_, _, written, rfl⟩ := run
    rw [Emit.runs_write written, if_pos (by simpa using first)]

/-- Writing a declaration adds it, with its text behind a blank line unless it is the first. -/
theorem Generator.eq_of_declare {generator : Generator} {declaration : Code.Declaration}
    {p q : Pass} {u : PUnit} (builtin : generator.templates = .builtin)
    (run : Emit.Runs (Emit.declare generator declaration) p u q) :
    q = { p with
      sink := { p.sink with
        text := p.sink.text ++
          (if p.sections = 0 then declaration.trimmed else "\n\n" ++ declaration.trimmed)
        declarations := p.sink.declarations ++ [declaration] }
      sections := p.sections + 1 } := by
  simp only [Emit.declare, Emit.render, builtin, Template.render_builtin, pure_bind,
    declaration.sectionText?_printed, Emit.runs_bind, Emit.runs_modify] at run
  obtain ⟨_, _, written, rfl⟩ := run
  rw [Emit.runs_writeTrimmed written]
  rfl

/-- Writing a declaration adds it and its text, and nothing else. -/
theorem Generator.runs_declare {generator : Generator} {declaration : Code.Declaration}
    {p q : Pass} {u : PUnit} (builtin : generator.templates = .builtin) (prints : p.Prints)
    (run : Emit.Runs (Emit.declare generator declaration) p u q) :
    q.Prints ∧ q.sink.declarations = p.sink.declarations ++ [declaration] ∧
      q.sink.imports = p.sink.imports ∧ q.scope = p.scope ∧ q.declared = p.declared := by
  rw [eq_of_declare builtin run]
  refine ⟨⟨?_, ?_⟩, rfl, rfl, rfl, rfl⟩
  · cases before : p.sink.declarations with
    | nil =>
      have first : p.sections = 0 := by simp [prints.sections, before]
      simp [prints.text, before, first, Code.textOf]
    | cons head rest =>
      have later : p.sections ≠ 0 := by simp [prints.sections, before]
      simp only [prints.text, if_neg later, before, Code.textOf, List.map_append]
      rw [String.intercalate_append_of_ne_nil (by simp) (by simp)]
      simp [String.append_assoc]
  · simp [prints.sections]

/-! ### Waiting -/

/-- The nodes at some depth below given ones, these included. -/
inductive PropertyNode.Descends (roots : List PropertyNode) : PropertyNode → Prop where
  /-- One of the given nodes. -/
  | root {node : PropertyNode} : node ∈ roots → Descends roots node
  /-- A node one level below. -/
  | child {node child : PropertyNode} : Descends roots node → child ∈ node.children →
      Descends roots child

theorem mem_below {id : NodeId} {edge : Nat → Edge} {properties : List Property}
    {node : PropertyNode} (member : node ∈ PropertyNode.below id edge properties) :
    node.property ∈ properties := by
  obtain ⟨⟨property, index⟩, there, rfl⟩ := List.mem_map.mp member
  exact (List.mem_zipIdx' there).2 ▸ List.getElem_mem _

/-- What goes down from a property to those in it goes down from nodes to all below them. -/
theorem PropertyNode.Descends.closed (good : Property → Prop) {roots : List PropertyNode}
    {node : PropertyNode}
    (down : ∀ property, good property →
      ∀ other ∈ property.properties ++ property.parameters, good other)
    (start : ∀ root ∈ roots, good root.property) (below : Descends roots node) :
    good node.property := by
  induction below with
  | root member => exact start _ member
  | child _ member ih =>
    refine down _ ih _ ?_
    rcases List.mem_append.mp member with field | parameter
    · exact List.mem_append_left _ (mem_below field)
    · exact List.mem_append_right _ (mem_below parameter)

namespace Generator

variable {generator : Generator} {roots : List PropertyNode} {taken own : List String}
  {primary nested : List Code.Declaration} {p q : Pass}

/-- The entities that got a name are those whose declarations were written, then those in `lead`,
then those that wait. They stand below the roots, and their names are made of symbols. -/
structure Waits (generator : Generator) (roots : List PropertyNode) (lead : List Pending)
    (pass : Pass) : Prop where
  /-- The names were given in this order. -/
  allocated : pass.allocated = (pass.declared ++ lead ++ pass.scope.pending).map (·.name)
  /-- The entities stand below the roots. -/
  descends : ∀ pending ∈ pass.declared ++ lead ++ pass.scope.pending,
    PropertyNode.Descends roots pending.node
  /-- Their names are made of symbols. -/
  makes : ∀ pending ∈ pass.declared ++ lead ++ pass.scope.pending, generator.Makes pending.name
  /-- So are the other names of the pass. -/
  made : pass.IsMade generator

theorem Waits.grows {lead : List Pending} {claimed : List String} {queued : List Queued}
    (waits : generator.Waits roots lead p) (grows : generator.Grows p q claimed queued)
    (below : ∀ entry ∈ queued, PropertyNode.Descends roots entry.node) :
    generator.Waits roots lead q where
  allocated := by
    rw [grows.allocated, waits.allocated, grows.declared, grows.pending]
    simp [Queued.name]
  descends pending member := by
    rw [grows.declared, grows.pending, ← List.append_assoc, List.mem_append] at member
    rcases member with old | new
    · exact waits.descends pending old
    · obtain ⟨entry, entryMember, rfl⟩ := List.mem_map.mp new
      exact below entry entryMember
  makes pending member := by
    rw [grows.declared, grows.pending, ← List.append_assoc, List.mem_append] at member
    rcases member with old | new
    · exact waits.makes pending old
    · obtain ⟨entry, entryMember, rfl⟩ := List.mem_map.mp new
      exact grows.made waits.made _ (grows.sub entry entryMember)
  made := grows.isMade waits.made

/-- A step that touches neither names nor the record of what was written. -/
theorem Waits.of_same {lead : List Pending} (waits : generator.Waits roots lead p)
    (scope : q.scope = p.scope) (declared : q.declared = p.declared) :
    generator.Waits roots lead q where
  allocated := by
    rw [Pass.allocated, scope, declared]
    exact waits.allocated
  descends := by
    rw [scope, declared]
    exact waits.descends
  makes := by
    rw [scope, declared]
    exact waits.makes
  made := ⟨scope ▸ waits.made.stem, scope ▸ waits.made.given⟩

/-- While the declaration of the first entity is made, it is neither waiting nor declared. -/
theorem Waits.begin {pending : Pending} {rest : List Pending} (waits : generator.Waits roots [] p)
    (first : p.scope.pending = pending :: rest) :
    generator.Waits roots [pending] { p with scope := { p.scope with pending := rest } } := by
  obtain ⟨allocated, descends, makes, made⟩ := waits
  rw [first] at allocated descends makes
  exact ⟨by simpa [Pass.allocated] using allocated, by simpa using descends,
    by simpa using makes, ⟨made.stem, made.given⟩⟩

/-- What was in front of what waits has been written. -/
theorem Waits.declared {lead : List Pending} (waits : generator.Waits roots lead p) :
    generator.Waits roots [] { p with declared := p.declared ++ lead } where
  allocated := by simpa [Pass.allocated] using waits.allocated
  descends := by simpa using waits.descends
  makes := by simpa using waits.makes
  made := ⟨waits.made.stem, waits.made.given⟩

/-- The state of a pass between two declarations: `primary` are the declarations of the block
itself, `nested` the others so far. -/
structure Progress (generator : Generator) (roots : List PropertyNode) (taken own : List String)
    (primary nested : List Code.Declaration) (pass : Pass) : Prop where
  /-- The declarations so far. -/
  written : pass.sink.declarations = primary ++ nested
  /-- The text is theirs. -/
  prints : pass.Prints
  /-- Every name is accounted for. -/
  accounts : Accounts taken own pass.scope.names ((primary ++ nested).flatMap (·.names))
    (pass.scope.pending.map (·.name))
  /-- What waits was queued in the order of its names. -/
  waits : generator.Waits roots [] pass
  /-- The declared names are made of symbols. -/
  made : ∀ name ∈ (primary ++ nested).flatMap (·.names), generator.Makes name
  /-- Nothing but the host package is imported. -/
  imports : generator.HostOnly pass.sink.imports
  /-- What waited was declared in that order. -/
  nested : List.Forall₂ (generator.DeclarationFor pass.allocated) pass.declared nested

/-- The first entity that waits is declared: its declaration is the next nested one, and the
entities that wait behind the others now are below it. -/
theorem Progress.step {pending : Pending} {rest : List Pending} {u : PUnit}
    (builtin : generator.templates = .builtin)
    (progress : generator.Progress roots taken own primary nested p)
    (first : p.scope.pending = pending :: rest)
    (run : Emit.Runs (generator.declarePending pending)
      { p with scope := { p.scope with pending := rest } } u q) :
    ∃ declaration, ∃ queued : List Queued,
      generator.Progress roots taken own primary (nested ++ [declaration])
        { q with declared := q.declared ++ [pending] } ∧
      p.allocated ⊆ q.allocated ∧ q.declared = p.declared ∧
      q.scope.pending = rest ++ queued.map (·.pending) ∧
      (queued.map (·.node)).Sublist pending.node.children := by
  obtain ⟨declaration, m, making, writing⟩ := Emit.runs_bind.mp run
  -- while it is declared the entity waits no longer, and it is counted when it is written
  have waits := progress.waits.begin first
  have mine : pending ∈ p.declared ++ [pending] ++ rest := by simp
  obtain ⟨fits, declares⟩ := declares_pendingDeclaration (waits.makes pending mine) making
  have more : p.allocated ⊆ m.allocated := declares.allocated_subset
  obtain ⟨queued, grows, below⟩ := declares
  have after : generator.Waits roots [pending] m := by
    refine waits.grows grows fun entry entryMember => ?_
    exact (waits.descends pending mine).child (below.subset (List.mem_map_of_mem entryMember))
  obtain ⟨prints, written, imports, scope, declared⟩ :=
    runs_declare builtin (grows.prints ⟨progress.prints.text, progress.prints.sections⟩) writing
  rw [grows.declared] at declared
  rw [grows.declarations] at written
  have same : q.allocated = m.allocated := by rw [Pass.allocated, scope, Pass.allocated]
  refine ⟨declaration, queued, ?_, same ▸ more, declared, by rw [scope, grows.pending], below⟩
  constructor
  · rw [written, progress.written, List.append_assoc]
  · exact ⟨prints.text, prints.sections⟩
  · -- its own name waited, the other names of its declaration are claimed
    have accounts := progress.accounts
    rw [first, List.map_cons, ← List.singleton_append] at accounts
    have next := accounts.write grows.nodup grows.fresh
    rw [List.singleton_append, ← fits.names] at next
    simpa [scope, grows.names, grows.pending, Queued.name, Function.comp_def] using next
  · exact (after.of_same scope (declared.trans grows.declared.symm)).declared
  · intro name member
    simp only [← List.append_assoc, List.flatMap_append, List.flatMap_cons, List.flatMap_nil,
      List.append_nil, List.mem_append] at member
    rcases member with old | new
    · exact progress.made name (by simpa using old)
    · rw [fits.names, List.mem_cons] at new
      rcases new with rfl | extra
      · exact waits.makes pending mine
      · exact grows.made waits.made name (List.mem_append_right _ extra)
  · rw [imports]
    exact grows.imports progress.imports
  · rw [declared]
    change List.Forall₂ (generator.DeclarationFor q.allocated) _ _
    rw [same]
    have earlier := progress.nested.imp fun _ _ fits => fits.mono more
    exact List.rel_append earlier (.cons fits .nil)

end Generator

end HostBindings
