import HostBindings.Proofs.Emission.Progress

/-!
# The whole pass of a block

A pass writes the declarations of the block, then those that wait, those included that are queued on
the way. The entities that wait always have fewer properties than the ones written so far left to
queue, so none is left over in the end.

## Main definitions

* `Generator.blockNodes` — the properties that are declared with a block itself
* `Generator.PrimaryFor` — the declarations of the block itself

## Main results

* `nodeCounts_children` — a level below has fewer properties
* `Generator.Progress.drainUpTo` — what waits is written to the last
* `Generator.progress_emission` — a whole pass
-/

namespace HostBindings

open Api (Block Property)

namespace Generator

/-! ### Numbers of properties -/

theorem nodeCounts_append (properties more : List Property) :
    nodeCounts (properties ++ more) = nodeCounts properties + nodeCounts more := by
  induction properties with
  | nil => simp [nodeCounts]
  | cons property rest ih => simp [nodeCounts, ih, Nat.add_assoc]

theorem nodeCounts_le_of_sublist {properties more : List Property}
    (sub : properties.Sublist more) : nodeCounts properties ≤ nodeCounts more := by
  induction sub with
  | slnil => exact Nat.le_refl _
  | cons property _ ih => exact Nat.le_trans ih (Nat.le_add_left _ _)
  | cons_cons property _ ih => exact Nat.add_le_add_left ih _

theorem nodeCount_pos (property : Property) : 0 < nodeCount property := by
  obtain ⟨_, properties, parameters, _⟩ := property
  rw [nodeCount]
  omega

theorem map_property_below (id : NodeId) (edge : Nat → Edge) (properties : List Property) :
    (PropertyNode.below id edge properties).map (·.property) = properties := by
  simp [PropertyNode.below, Function.comp_def]

/-- The properties one level below a property are those in it without itself. -/
theorem nodeCounts_children (node : PropertyNode) :
    nodeCounts (node.children.map (·.property)) + 1 = nodeCount node.property := by
  rw [PropertyNode.children, List.map_append, PropertyNode.properties, PropertyNode.parameters,
    map_property_below, map_property_below, nodeCounts_append]
  obtain ⟨_, _, properties, parameters, _⟩ := node
  change nodeCounts properties + nodeCounts parameters + 1 = nodeCount _
  rw [nodeCount]
  omega

/-! ### Declarations that wait -/

/-- The number of properties in what waits. -/
def waitingCount (pass : Pass) : Nat :=
  nodeCounts (pass.scope.pending.map (·.node.property))

variable {generator : Generator} {roots : List PropertyNode} {taken own : List String}
  {primary nested : List Code.Declaration} {p q : Pass}

/-- Whatever waits has a property at least. -/
theorem pending_eq_nil_of_waitingCount (none : waitingCount p ≤ 0) : p.scope.pending = [] := by
  cases waiting : p.scope.pending with
  | nil => rfl
  | cons pending rest =>
    have pos := nodeCount_pos pending.node.property
    simp only [waitingCount, waiting, List.map_cons, nodeCounts] at none
    omega

/-- If nodes one level below the first one that waits take its place, there are fewer properties
than before. -/
theorem waitingCount_lt {pending : Pending} {rest queued : List Pending}
    (waiting : p.scope.pending = pending :: rest) (left : q.scope.pending = rest ++ queued)
    (below : (queued.map (·.node)).Sublist pending.node.children) :
    waitingCount q < waitingCount p := by
  have children := nodeCounts_children pending.node
  have sub := nodeCounts_le_of_sublist (below.map (·.property))
  rw [List.map_map] at sub
  change nodeCounts (queued.map fun entry => entry.node.property) ≤ _ at sub
  simp only [waitingCount, waiting, left, List.map_cons, List.map_append, nodeCounts,
    nodeCounts_append]
  omega

/-- What waits is declared to the last, provided that the limit covers it. -/
theorem Progress.drainUpTo (builtin : generator.templates = .builtin) {limit count : Nat}
    (progress : generator.Progress roots taken own primary nested p)
    (bound : waitingCount p ≤ limit) (run : Emit.Runs (generator.drainUpTo limit) p count q) :
    ∃ more, generator.Progress roots taken own primary (nested ++ more) q ∧
      q.scope.pending = [] ∧ q.declared.length = p.declared.length + count ∧
      p.allocated ⊆ q.allocated := by
  induction limit generalizing p nested count with
  | zero =>
    obtain ⟨rfl, rfl⟩ := Emit.runs_pure.mp run
    exact ⟨[], by simpa using progress, pending_eq_nil_of_waitingCount bound, rfl,
      List.Subset.refl _⟩
  | succ limit ih =>
    rcases Emit.drainUpTo_cases run with
      ⟨waiting, rfl, rfl⟩ | ⟨pending, rest, m, count, waiting, declaring, drained, rfl⟩
    · exact ⟨[], by simpa using progress, waiting, rfl, List.Subset.refl _⟩
    · obtain ⟨declaration, queued, next, more, declared, left, below⟩ :=
        progress.step builtin waiting declaring
      have fewer : waitingCount { m with declared := m.declared ++ [pending] } < waitingCount _ :=
        waitingCount_lt waiting left (by rwa [List.map_map])
      obtain ⟨others, final, empty, length, rest⟩ := ih next (by omega) drained
      refine ⟨declaration :: others, by simpa using final, empty, ?_, List.Subset.trans more rest⟩
      rw [length, List.length_append, declared, List.length_singleton]
      omega

/-! ### The declarations of a block -/

/-- The properties that are declared with a block itself: its fields, and the parameters and results
of its methods. -/
def blockNodes (block : Block) : List PropertyNode :=
  blockProperties block ++ (blockMethods block).flatMap slotNodes

section Members

variable {block : Block}

/-- The parameters and the result of a method stand in the method. -/
theorem mem_of_mem_slotNodes {node : MethodNode} {slot : PropertyNode}
    (member : slot ∈ slotNodes node) :
    slot.property ∈ node.method.parameters ++ node.method.returns.toList := by
  rcases List.mem_append.mp member with parameter | last
  · exact List.mem_append_left _ (mem_below parameter)
  · obtain ⟨property, found, rfl⟩ := Option.map_eq_some_iff.mp (Option.mem_toList.mp last)
    exact List.mem_append_right _ (by simp [found])

/-- The methods that are declared with a block stand in the block. -/
theorem mem_of_mem_blockMethods {node : MethodNode} (member : node ∈ blockMethods block) :
    node.method ∈ block.methods ++ block.instanceMethods := by
  have within {edge : Nat → Edge} {methods : List Api.Method}
      (below : node ∈ MethodNode.below .block edge methods) : node.method ∈ methods := by
    obtain ⟨⟨method, index⟩, there, rfl⟩ := List.mem_map.mp below
    exact (List.mem_zipIdx' there).2 ▸ List.getElem_mem _
  unfold blockMethods at member
  split at member
  · exact List.mem_append_left _ (within member)
  · exact List.mem_append_right _ (within member)
  · cases member

/-- So do the events. -/
theorem mem_of_mem_blockEvents {event : Api.Event} (member : event ∈ blockEvents block) :
    event ∈ block.events ++ block.instanceEvents := by
  unfold blockEvents at member
  split at member
  · exact List.mem_append_left _ member
  · exact List.mem_append_right _ member
  · cases member

/-- So do the fields. -/
theorem mem_of_mem_blockProperties {node : PropertyNode} (member : node ∈ blockProperties block) :
    node.property ∈ block.properties ++ block.instanceProperties := by
  unfold blockProperties at member
  split at member
  · exact List.mem_append_right _ (mem_below member)
  · exact List.mem_append_left _ (mem_below member)

end Members

/-- The declarations of a block itself: the constants of its events, if it has any, and its
structure. -/
inductive PrimaryFor (generator : Generator) (allocated : List String) (block : Block)
    (symbol : String) : List Code.Declaration → Prop where
  /-- A block without events. -/
  | plain {handle : Code.Handle} {fields : List Code.Field} :
      blockEvents block = [] →
      generator.StructureFor allocated block (blockProperties block) (blockMethods block) handle
        fields →
      PrimaryFor generator allocated block symbol
        [.composite (generator.docLines block.info) symbol handle fields]
  /-- A block with events. -/
  | withEvents {comments : List String} {constants : List Code.Constant} {handle : Code.Handle}
      {fields : List Code.Field} :
      blockEvents block ≠ [] →
      generator.EventsFor symbol (blockEvents block) comments constants →
      generator.StructureFor allocated block (blockProperties block) (blockMethods block) handle
        fields →
      PrimaryFor generator allocated block symbol
        [.events comments constants,
          .composite (generator.docLines block.info) symbol handle fields]

theorem PrimaryFor.mono {allocated more : List String} {block : Block} {symbol : String}
    (subset : allocated ⊆ more) (fits : generator.PrimaryFor allocated block symbol primary) :
    generator.PrimaryFor more block symbol primary := by
  cases fits with
  | plain none structure' => exact .plain none (structure'.mono subset)
  | withEvents some events structure' => exact .withEvents some events (structure'.mono subset)

/-- The declarations of a block itself rely on nested entities only. -/
theorem PrimaryFor.uses_subset {allocated : List String} {block : Block} {symbol : String}
    (fits : generator.PrimaryFor allocated block symbol primary) :
    primary.flatMap (·.uses) ⊆ allocated := by
  cases fits with
  | plain _ structure' => simpa [Code.Declaration.uses] using structure'.uses_subset
  | withEvents _ _ structure' => simpa [Code.Declaration.uses] using structure'.uses_subset

/-- A step that neither gives names nor writes. -/
theorem Progress.of_grows (progress : generator.Progress roots taken own primary nested p)
    (grows : generator.Grows p q [] []) :
    generator.Progress roots taken own primary nested q where
  written := grows.declarations.trans progress.written
  prints := grows.prints progress.prints
  accounts := by simpa [grows.names, grows.pending] using progress.accounts
  waits := progress.waits.grows grows (by simp)
  nested := by simpa [grows.allocated, grows.declared] using progress.nested
  made := progress.made
  imports := grows.imports progress.imports

/-- Growth of a pass that has declared nothing nested yet, with a declaration written behind. -/
theorem Progress.write (lead : List String) (queued : List Queued) {extra : List String}
    {declaration : Code.Declaration} {m : Pass} {u : PUnit}
    (builtin : generator.templates = .builtin)
    (progress : generator.Progress roots taken own primary [] p)
    (grows : generator.Grows p m (queued.map (·.name) ++ extra) queued)
    (below : (queued.map (·.node)).Sublist roots)
    (names : declaration.names = lead ++ extra) (made : ∀ name ∈ lead, generator.Makes name)
    (run : Emit.Runs (Emit.declare generator declaration) m u q) :
    generator.Progress roots taken (own ++ lead) (primary ++ [declaration]) [] q ∧
      q.scope = m.scope := by
  obtain ⟨prints, written, imports, scope, declared⟩ :=
    runs_declare builtin (grows.prints progress.prints) run
  have after : generator.Waits roots [] m := by
    refine progress.waits.grows grows fun entry member => ?_
    exact .root (below.subset (List.mem_map_of_mem member))
  refine ⟨?_, scope⟩
  -- field by field: what was written, whose names those are, and what waits now
  constructor
  · rw [written, grows.declarations, progress.written]
    simp
  · exact prints
  · have ready : Accounts taken (own ++ lead) p.scope.names _ ([] ++ _) :=
      progress.accounts.own lead
    have accounts := ready.write grows.nodup grows.fresh
    simpa [scope, grows.names, grows.pending, names, Queued.name, Function.comp_def] using accounts
  · exact after.of_same scope declared
  · intro name member
    simp only [List.append_nil, List.flatMap_append, List.flatMap_cons, List.flatMap_nil, names,
      List.mem_append] at member
    rcases member with old | own | extra
    · exact progress.made name (by simpa using old)
    · exact made name own
    · exact grows.made progress.waits.made name (List.mem_append_right _ extra)
  · rw [imports]
    exact grows.imports progress.imports
  · have none : p.declared = [] := List.forall₂_nil_right_iff.mp progress.nested
    rw [declared, grows.declared, none]
    exact .nil

private theorem grows_noteOmitted {block : Block} {u : PUnit}
    (run : Emit.Runs (noteOmitted block) p u q) : generator.Grows p q [] [] := by
  unfold noteOmitted at run
  split at run
  · simp only [Emit.note, Emit.runs_modify] at run
    subst run
    exact .of_same rfl rfl rfl rfl
  · obtain ⟨-, rfl⟩ := Emit.runs_pure.mp run
    exact .refl _

/-- The constants of events are written if there are any. -/
theorem progress_declareEvents {events : List Api.Event} {u : PUnit}
    (builtin : generator.templates = .builtin)
    (progress : generator.Progress roots taken [] [] [] p)
    (run : Emit.Runs (generator.declareEvents events) p u q) :
    q.scope.symbol = p.scope.symbol ∧
      ((events = [] ∧ generator.Progress roots taken [] [] [] q) ∨
        (events ≠ [] ∧ ∃ comments constants,
          generator.EventsFor p.scope.symbol events comments constants ∧
          generator.Progress roots taken [] [.events comments constants] [] q)) := by
  unfold declareEvents at run
  split at run
  next some =>
    obtain ⟨declaration, m, making, writing⟩ := Emit.runs_bind.mp run
    obtain ⟨comments, constants, rfl, fits, grows⟩ := grows_eventsDeclaration making
    obtain ⟨next, scope⟩ := progress.write [] [] builtin grows (List.nil_sublist _) rfl
      (by simp) writing
    exact ⟨by rw [scope, grows.symbol], .inr ⟨by simpa using some, comments, constants, fits, next⟩⟩
  next none =>
    obtain ⟨-, rfl⟩ := Emit.runs_pure.mp run
    exact ⟨rfl, .inl ⟨by simpa using none, progress⟩⟩

/-- The primary declarations of a block are written, and what they need waits. -/
theorem progress_declareBlock {block : Block} {u : PUnit}
    (builtin : generator.templates = .builtin) (made : generator.Makes p.scope.symbol)
    (progress : generator.Progress (blockNodes block) taken [] [] [] p)
    (run : Emit.Runs (generator.declareBlock block) p u q) :
    ∃ primary, generator.PrimaryFor q.allocated block p.scope.symbol primary ∧
      generator.Progress (blockNodes block) taken [p.scope.symbol] primary [] q := by
  simp only [declareBlock, declareMembers, Emit.runs_bind] at run
  obtain ⟨_, m, noted, _, n, events, declaration, k, making, writing⟩ := run
  have quiet : generator.Grows p m [] [] := grows_noteOmitted noted
  obtain ⟨symbol, before⟩ := progress_declareEvents builtin (progress.of_grows quiet) events
  rw [quiet.symbol] at symbol before
  obtain ⟨handle, fields, rfl, fits, queued, grows, below⟩ := queues_structureOf making
  rw [symbol] at writing
  rw [← List.append_nil (queued.map (·.name))] at grows
  have own : ∀ name ∈ [p.scope.symbol], generator.Makes name := by simpa using made
  rcases before with ⟨none, next⟩ | ⟨some, comments, constants, eventsFor, next⟩
  · obtain ⟨last, scope⟩ := next.write [p.scope.symbol] queued builtin grows below rfl own writing
    refine ⟨_, .plain none ?_, last⟩
    rw [Pass.allocated, scope]
    exact fits
  · obtain ⟨last, scope⟩ := next.write [p.scope.symbol] queued builtin grows below rfl own writing
    refine ⟨_, .withEvents some eventsFor ?_, last⟩
    rw [Pass.allocated, scope]
    exact fits

/-! ### A whole pass -/

/-- A pass starts with the symbol and the stem of its block, and nothing else. -/
theorem start_eq_ok {block : Block} {reserved : List String} {start : Pass} :
    Pass.start generator block reserved = .ok start ↔
      ∃ symbol stem, generator.baseSymbol block.info = .ok symbol ∧
        generator.stem block.info = .ok stem ∧
        start =
          { block, scope := .start symbol stem reserved, sink := { blockName := block.name } } := by
  cases symbol : generator.baseSymbol block.info with
  | error => simp [Pass.start, symbol, bind, Except.bind]
  | ok name =>
    cases stem : generator.stem block.info with
    | error => simp [Pass.start, symbol, stem, bind, Except.bind]
    | ok lead => simp [Pass.start, symbol, stem, bind, Except.bind, pure, Except.pure, eq_comm]

section Starts

variable {block : Block} {reserved : List String} {start : Pass}
  (started : Pass.start generator block reserved = .ok start)

include started

theorem baseSymbol_of_start : generator.baseSymbol block.info = .ok start.scope.symbol := by
  obtain ⟨symbol, _, spelt, -, rfl⟩ := start_eq_ok.mp started
  exact spelt

theorem symbol_of_start {symbol : String} (spelt : generator.baseSymbol block.info = .ok symbol) :
    start.scope.symbol = symbol :=
  Except.ok.inj ((baseSymbol_of_start started).symm.trans spelt)

/-- The names that are taken before a pass are taken in it. -/
theorem reserved_subset_start : reserved ⊆ start.scope.names := by
  obtain ⟨symbol, stem, -, -, rfl⟩ := start_eq_ok.mp started
  intro name member
  by_cases taken : symbol ∈ reserved <;> simp [Scope.start, taken, member]

/-- The symbol of a block is taken before its pass starts. -/
theorem symbol_mem_start : start.scope.symbol ∈ start.scope.names := by
  obtain ⟨symbol, stem, -, -, rfl⟩ := start_eq_ok.mp started
  by_cases taken : symbol ∈ reserved <;> simp [Scope.start, taken]

end Starts

/-- At the start nothing is written, and nothing waits. -/
theorem progress_start {block : Block} {reserved : List String} {start : Pass}
    (started : Pass.start generator block reserved = .ok start) :
    generator.Progress roots start.scope.names [] [] [] start := by
  obtain ⟨symbol, stem, -, spelt, rfl⟩ := start_eq_ok.mp started
  exact {
    written := rfl
    prints := ⟨rfl, rfl⟩
    accounts := .start _
    waits :=
      ⟨rfl, by simp [Scope.start], by simp [Scope.start], .stem spelt, by simp [Scope.start]⟩
    nested := .nil
    made := by simp
    imports := .inl rfl }

/-- A pass that succeeds has written the declarations of the block and then those of all entities
that got a name, in the order of their names, and nothing waits any more. -/
theorem progress_emission {block : Block} {reserved : List String} {start : Pass} {count : Nat}
    (builtin : generator.templates = .builtin)
    (started : Pass.start generator block reserved = .ok start)
    (run : Emit.Runs (generator.emission block) start count q) :
    ∃ primary nested, generator.PrimaryFor q.allocated block start.scope.symbol primary ∧
      generator.Progress (blockNodes block) start.scope.names [start.scope.symbol] primary nested
        q ∧
      q.scope.pending = [] ∧ count = q.declared.length := by
  simp only [emission, drain, Emit.runs_bind, Emit.runs_get] at run
  obtain ⟨_, m, declaring, _, _, ⟨rfl, rfl⟩, drained⟩ := run
  have made : generator.Makes start.scope.symbol := .base (baseSymbol_of_start started)
  obtain ⟨primary, fits, progress⟩ :=
    progress_declareBlock builtin made (progress_start started) declaring
  obtain ⟨nested, final, empty, length, more⟩ :=
    progress.drainUpTo builtin (Nat.le_refl _) drained
  refine ⟨primary, nested, fits.mono more, final, empty, ?_⟩
  have none : _ = [] := List.forall₂_nil_right_iff.mp progress.nested
  simp [length, none]

end Generator

end HostBindings
