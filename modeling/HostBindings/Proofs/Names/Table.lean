import HostBindings.Proofs.Emission.Growth
import Mathlib.Data.List.Nodup
import Mathlib.Logic.Relation
import Mathlib.Order.Bounds.Defs

/-!
# The table of names

A pass keeps two books: the names that are taken, and the table that gives each key of a nested
entity its name. Whatever an action of a pass does to them, it does in steps of four kinds: nothing,
a name spent on a constant, a name given to a new key, or a declaration written whose constants have
names that were spent. This holds of actions that fail too. What is invariant under the four kinds
of steps is invariant under everything that a pass does.

## Main definitions

* `Pass.Spent` — a taken name that no nested entity has
* `Pass.Step`, `Pass.Evolves` — one step, and any number of them
* `Pass.Sound` — the invariant of the books
* `Emit.Ensures` — what an action does to the books, and what it answers

## Main results

* `Pass.Sound.evolves`, `Pass.Spent.evolves`, `Pass.mem_shapes_of_evolves` — what steps keep
* `Emit.claim_takes_least` — the name that a claim takes
* `Emit.ensures_claim`, `Emit.ensures_register` — the two ways to get a name
-/

namespace HostBindings

open Api (Info PossibleValue)

/-- The constants of a declaration: those of events, or the members of an enumeration. -/
def Code.Declaration.constants : Code.Declaration → List Code.Constant
  | events _ constants => constants
  | enumeration _ _ _ members => members
  | composite .. | function .. => []

variable {p q r : Pass}

/-! ### Steps -/

/-- A name that is taken, and that no nested entity has. -/
structure Pass.Spent (pass : Pass) (name : String) : Prop where
  /-- The name is taken. -/
  taken : name ∈ pass.scope.names
  /-- No nested entity has it. -/
  unshared : name ∉ pass.allocated

/-- One step of a pass, as far as names are concerned. -/
inductive Pass.Step (p q : Pass) : Prop where
  /-- Nothing happens to the names. -/
  | quiet (names : q.scope.names = p.scope.names) (shapes : q.scope.shapes = p.scope.shapes)
      (declarations : q.sink.declarations = p.sink.declarations) : Step p q
  /-- A free name is taken for a constant. -/
  | spend {name : String} (fresh : name ∉ p.scope.names)
      (names : q.scope.names = p.scope.names ++ [name])
      (shapes : q.scope.shapes = p.scope.shapes)
      (declarations : q.sink.declarations = p.sink.declarations) : Step p q
  /-- A free name is given to a key that had none. -/
  | give {key : ShapeKey} {name : String} (new : p.scope.shapes.lookup key = none)
      (fresh : name ∉ p.scope.names) (names : q.scope.names = p.scope.names ++ [name])
      (shapes : q.scope.shapes = p.scope.shapes ++ [(key, name)])
      (declarations : q.sink.declarations = p.sink.declarations) : Step p q
  /-- A declaration is written. -/
  | write {declaration : Code.Declaration}
      (spent : ∀ constant ∈ declaration.constants, p.Spent constant.name)
      (names : q.scope.names = p.scope.names) (shapes : q.scope.shapes = p.scope.shapes)
      (declarations : q.sink.declarations = p.sink.declarations ++ [declaration]) : Step p q

/-- Any number of steps. -/
abbrev Pass.Evolves : Pass → Pass → Prop := Relation.ReflTransGen Pass.Step

/-- The books of a pass are in order. -/
structure Pass.Sound (pass : Pass) : Prop where
  /-- No key is listed twice. -/
  keys : (pass.scope.shapes.map (·.1)).Nodup
  /-- No name is given twice. -/
  names : pass.allocated.Nodup
  /-- The names that are given are taken. -/
  taken : pass.allocated ⊆ pass.scope.names
  /-- The names of declared constants are spent. -/
  constants : ∀ declaration ∈ pass.sink.declarations, ∀ constant ∈ declaration.constants,
    pass.Spent constant.name

namespace Pass

theorem Step.names_subset (step : p.Step q) : p.scope.names ⊆ q.scope.names := by
  cases step with
  | quiet names | write _ names => exact names ▸ List.Subset.refl _
  | spend _ names | give _ _ names => exact names ▸ List.subset_append_left _ _

theorem Step.shapes_subset (step : p.Step q) : p.scope.shapes ⊆ q.scope.shapes := by
  cases step with
  | quiet _ shapes | spend _ _ shapes | write _ _ shapes => exact shapes ▸ List.Subset.refl _
  | give _ _ _ shapes => exact shapes ▸ List.subset_append_left _ _

/-- A spent name stays spent: a name that is given was free. -/
theorem Spent.step {name : String} (spent : p.Spent name) (step : p.Step q) : q.Spent name where
  taken := step.names_subset spent.taken
  unshared := by
    have unshared := spent.unshared
    cases step with
    | quiet _ shapes | spend _ _ shapes | write _ _ shapes => rwa [allocated, shapes]
    | @give _ other _ fresh _ shapes =>
      rw [allocated, shapes, List.map_append, List.mem_append, not_or]
      -- the name that is given now was free, and a spent name is not
      refine ⟨unshared, fun given => fresh ?_⟩
      have same : name = other := List.mem_singleton.mp given
      exact same ▸ spent.taken

/-- Steps keep the books in order. -/
theorem Sound.step (sound : p.Sound) (step : p.Step q) : q.Sound := by
  have keep (declaration) (old : declaration ∈ p.sink.declarations) :
      ∀ constant ∈ declaration.constants, q.Spent constant.name :=
    fun constant member => (sound.constants declaration old constant member).step step
  have taken : p.allocated ⊆ q.scope.names :=
    fun name member => step.names_subset (sound.taken member)
  cases step with
  | quiet _ shapes declarations | spend _ _ shapes declarations =>
    exact ⟨shapes ▸ sound.keys, by rw [allocated, shapes]; exact sound.names,
      by rw [allocated, shapes]; exact taken, by rw [declarations]; exact keep⟩
  | @give _ other new fresh names shapes declarations =>
    refine ⟨?_, ?_, ?_, by rw [declarations]; exact keep⟩
    · -- the key was looked up in vain before
      rw [shapes, List.map_append]
      refine List.nodup_append.mpr ⟨sound.keys, List.nodup_singleton _, ?_⟩
      rintro key listed _ here rfl
      obtain ⟨entry, member, rfl⟩ := List.mem_map.mp listed
      have absent := List.lookup_eq_none_iff.mp new entry member
      simp [List.mem_singleton.mp here] at absent
    · -- all names that were given are taken, and the new one was free
      rw [allocated, shapes, List.map_append]
      refine List.nodup_append.mpr ⟨sound.names, List.nodup_singleton _, ?_⟩
      rintro name given _ here rfl
      have same : name = other := List.mem_singleton.mp here
      exact fresh (same ▸ sound.taken given)
    · rw [allocated, shapes, List.map_append, List.append_subset]
      exact ⟨taken, by simp [names]⟩
  | write spent names shapes declarations =>
    refine ⟨shapes ▸ sound.keys, by rw [allocated, shapes]; exact sound.names,
      by rw [allocated, shapes]; exact taken, fun declaration member => ?_⟩
    rw [declarations, List.mem_append, List.mem_singleton] at member
    rcases member with old | rfl
    · exact keep declaration old
    · exact fun constant member =>
        (spent constant member).step (.write spent names shapes declarations)

theorem Sound.evolves (sound : p.Sound) (evolves : p.Evolves q) : q.Sound := by
  induction evolves with
  | refl => exact sound
  | tail _ step ih => exact ih.step step

theorem Spent.evolves {name : String} (spent : p.Spent name) (evolves : p.Evolves q) :
    q.Spent name := by
  induction evolves with
  | refl => exact spent
  | tail _ step ih => exact ih.step step

theorem names_subset_of_evolves (evolves : p.Evolves q) : p.scope.names ⊆ q.scope.names := by
  induction evolves with
  | refl => exact List.Subset.refl _
  | tail _ step ih => exact List.Subset.trans ih step.names_subset

/-- What is in the table stays there. -/
theorem mem_shapes_of_evolves {entry : ShapeKey × String} (listed : entry ∈ p.scope.shapes)
    (evolves : p.Evolves q) : entry ∈ q.scope.shapes := by
  induction evolves with
  | refl => exact listed
  | tail _ step ih => exact step.shapes_subset ih

/-- In a table that is in order, equal names have equal keys, and equal keys equal names. -/
theorem Sound.name_eq_iff (sound : p.Sound) {entry other : ShapeKey × String}
    (listed : entry ∈ p.scope.shapes) (listed' : other ∈ p.scope.shapes) :
    entry.2 = other.2 ↔ entry.1 = other.1 :=
  ⟨fun same => congrArg Prod.fst (List.inj_on_of_nodup_map sound.names listed listed' same),
    fun same => congrArg Prod.snd (List.inj_on_of_nodup_map sound.keys listed listed' same)⟩

end Pass

/-! ### What actions ensure -/

namespace Emit

variable {α β : Type} {before : Pass → Prop} {middle : α → Pass → Prop} {after : β → Pass → Prop}

/-- From an orderly state of a certain kind, an action takes steps, whether it succeeds or not; if
it does, its answer and the state it leads to are of a certain kind. -/
def Ensures (before : Pass → Prop) (action : Emit α) (after : α → Pass → Prop) : Prop :=
  ∀ p : Pass, p.Sound → before p →
    p.Evolves (action.outcome p).2 ∧
      ∀ a, (action.outcome p).1 = .ok a → after a (action.outcome p).2

theorem ensures_pure {a : α} (holds : ∀ p, before p → middle a p) :
    Ensures before (pure a) middle := by
  intro p _ here
  refine ⟨.refl, fun b same => ?_⟩
  cases same
  exact holds p here

theorem ensures_throw {fault : PassFault} : Ensures before (throw fault : Emit α) middle := by
  intro p _ _
  exact ⟨.refl, fun b same => by cases same⟩

theorem ensures_bind {action : Emit α} {next : α → Emit β}
    (first : Ensures before action middle) (second : ∀ a, Ensures (middle a) (next a) after) :
    Ensures before (action >>= next) after := by
  intro p sound here
  obtain ⟨evolves, answers⟩ := first p sound here
  rw [outcome_bind]
  rcases ran : action.outcome p with ⟨fault | a, m⟩
  · -- an action that fails has taken its steps all the same
    rw [ran] at evolves
    exact ⟨evolves, fun b same => by cases same⟩
  · rw [ran] at evolves answers
    obtain ⟨more, final⟩ := second a m (sound.evolves evolves) (answers a rfl)
    exact ⟨evolves.trans more, final⟩

theorem ensures_modify {change : Pass → Pass} {u : PUnit → Pass → Prop}
    (step : ∀ p : Pass, p.Sound → before p → p.Step (change p))
    (holds : ∀ p, before p → u () (change p)) : Ensures before (modify change) u := by
  intro p sound here
  exact ⟨.single (step p sound here), fun _ _ => holds p here⟩

theorem ensures_set {state : Pass} {u : PUnit → Pass → Prop}
    (step : ∀ p : Pass, p.Sound → before p → p.Step state) (holds : u () state) :
    Ensures before (set state) u := by
  intro p sound here
  exact ⟨.single (step p sound here), fun _ _ => holds⟩

/-- The state itself as an answer. -/
theorem ensures_get : Ensures before (get : Emit Pass) fun s p => before p ∧ s = p := by
  intro p _ here
  refine ⟨.refl, fun s same => ?_⟩
  cases same
  exact ⟨here, rfl⟩

/-- What steps keep is kept by an action. -/
theorem Ensures.frame {action : Emit α} {kept : Pass → Prop}
    (stable : ∀ {p q : Pass}, kept p → p.Evolves q → kept q)
    (ensures : Ensures before action middle) :
    Ensures (fun p => before p ∧ kept p) action fun a p => middle a p ∧ kept p := by
  intro p sound here
  obtain ⟨evolves, answers⟩ := ensures p sound here.1
  exact ⟨evolves, fun a same => ⟨answers a same, stable here.2 evolves⟩⟩

theorem Ensures.weaken {action : Emit α} {before' : Pass → Prop} {middle' : α → Pass → Prop}
    (ensures : Ensures before action middle) (weaker : ∀ p, before' p → before p)
    (stronger : ∀ a p, middle a p → middle' a p) : Ensures before' action middle' := by
  intro p sound here
  obtain ⟨evolves, answers⟩ := ensures p sound (weaker p here)
  exact ⟨evolves, fun a same => stronger a _ (answers a same)⟩

/-- A list gone through item by item, where steps keep what every result fulfils. -/
theorem ensures_mapM {f : α → Emit β} {fits : β → Pass → Prop}
    (stable : ∀ {b} {p q : Pass}, fits b p → p.Evolves q → fits b q)
    (each : ∀ a, Ensures (fun _ => True) (f a) fits) (items : List α) :
    Ensures (fun _ => True) (items.mapM f) fun results p => ∀ b ∈ results, fits b p := by
  induction items with
  | nil => exact ensures_pure fun _ _ _ member => by cases member
  | cons item rest ih =>
    rw [List.mapM_cons]
    refine ensures_bind (each item) fun first => ?_
    refine ensures_bind ((ih.frame fun fit => stable fit).weaken (fun _ fit => ⟨trivial, fit⟩)
      fun _ _ both => both) fun others => ?_
    refine ensures_pure fun p both b member => ?_
    rcases List.mem_cons.mp member with rfl | later
    · exact both.2
    · exact both.1 b later

/-- An action takes steps, and nothing is said about its answer. -/
abbrev Steps (action : Emit α) : Prop := Ensures (fun _ => True) action fun _ _ => True

theorem Ensures.steps {action : Emit α} (ensures : Ensures (fun _ => True) action middle) :
    Steps action :=
  ensures.weaken (fun _ here => here) fun _ _ _ => trivial

/-- What steps keep is kept by an action that takes steps. -/
theorem Steps.keep {action : Emit α} {kept : Pass → Prop} (steps : Steps action)
    (stable : ∀ {p q : Pass}, kept p → p.Evolves q → kept q) :
    Ensures kept action fun _ p => kept p :=
  (steps.frame stable).weaken (fun _ here => ⟨trivial, here⟩) fun _ _ both => both.2

theorem steps_pure (a : α) : Steps (pure a) := ensures_pure fun _ _ => trivial

theorem steps_bind {action : Emit α} {next : α → Emit β} (first : Steps action)
    (second : ∀ a, Steps (next a)) : Steps (action >>= next) :=
  ensures_bind first second

theorem steps_mapM {f : α → Emit β} (each : ∀ a, Steps (f a)) (items : List α) :
    Steps (items.mapM f) :=
  (ensures_mapM (fun _ _ => trivial) each items).steps

theorem steps_forM {f : α → Emit PUnit} (each : ∀ a, Steps (f a)) (items : List α) :
    Steps (items.forM f) := by
  induction items with
  | nil => exact steps_pure ()
  | cons item rest ih => exact steps_bind (each item) fun _ => ih

/-! ### Actions that leave the names alone -/

theorem steps_setting (result : Except UseFault α) : Steps (setting result) := by
  cases result with
  | ok value => exact steps_pure value
  | error => exact ensures_throw

theorem steps_note (level : Level) (message : String) : Steps (note level message) :=
  ensures_modify (fun _ _ _ => .quiet rfl rfl rfl) fun _ _ => trivial

theorem steps_warn (message : String) : Steps (warn message) :=
  steps_bind ensures_get.steps fun _ => steps_bind (steps_note _ _) fun _ =>
    ensures_modify (fun _ _ _ => .quiet rfl rfl rfl) fun _ _ => trivial

theorem steps_requireImport (path : Json) : Steps (requireImport path) := by
  unfold requireImport
  split
  · exact steps_bind (steps_setting _) fun _ =>
      ensures_modify (fun _ _ _ => .quiet rfl rfl rfl) fun _ _ => trivial
  · exact steps_pure ()

/-! ### Names -/

/-- Whatever names are taken, a claim succeeds. The search for a free name ends for every candidate,
and the claim gives what it finds: a name that was not taken, namely the candidate if that is free,
and else the candidate with the least number from two on whose name is free. Behind the claim this
name is taken and no other that was not. -/
theorem claim_takes_least (candidate : String) (pass : Pass) :
    ∃ name after, (claim candidate).outcome pass = (.ok name, after) ∧
      (∀ found, Finds pass.scope.names candidate candidate 2 found ↔ found = name) ∧
      name ∉ pass.scope.names ∧
      (candidate ∉ pass.scope.names ∧ name = candidate ∨
        candidate ∈ pass.scope.names ∧ ∃ number, name = numbered candidate number ∧
          IsLeast {n | 2 ≤ n ∧ numbered candidate n ∉ pass.scope.names} number) ∧
      ∀ other, other ∈ after.scope.names ↔ other ∈ pass.scope.names ∨ other = name := by
  have fresh := freshName_not_mem pass.scope.names candidate
  refine ⟨_, _, outcome_claim candidate pass, fun found => finds_iff, fresh, ?_, fun other => ?_⟩
  · rcases freshName_cases pass.scope.names candidate with
      free | ⟨used, number, two, same, least⟩
    · exact .inl free
    · refine .inr ⟨used, number, same, ⟨two, same ▸ fresh⟩, ?_⟩
      -- a number below would have a free name, but all of those are taken
      rintro less ⟨late, free⟩
      by_contra below
      exact free (least less late (Nat.lt_of_not_le below))
  · simp [Scope.claim]

/-- A claimed name is spent, and was free before. -/
theorem ensures_claim (candidate : String) (names : List String) :
    Ensures (fun p => names ⊆ p.scope.names) (claim candidate)
      fun name p => p.Spent name ∧ name ∉ names := by
  intro p sound here
  have fresh := freshName_not_mem p.scope.names candidate
  rw [outcome_claim]
  refine ⟨.single (.spend fresh rfl rfl rfl), fun name same => ?_⟩
  cases same
  refine ⟨⟨?_, fun given => fresh (sound.taken given)⟩, fun old => fresh (here old)⟩
  simp [Scope.claim]

/-- A nested entity has the name that the table gives its key: a name that is there already, or a
free one that is given to it. -/
theorem ensures_register (generator : Generator) (kind : PendingKind) (node : PropertyNode)
    (parent : Option Entity) :
    Ensures (fun _ => True) (register generator kind node parent) fun name p =>
      ∃ symbol, generator.symbol node.property.info.name = .ok symbol ∧
        (⟨kind, symbol, node.property.shape⟩, name) ∈ p.scope.shapes := by
  intro p sound _
  generalize came : (register generator kind node parent).outcome p = outcome
  cases came ▸ registers generator kind node parent p with
  | fails fault => exact ⟨.refl, fun name same => by cases same⟩
  | shares log spelt found =>
    refine ⟨.single (.quiet rfl rfl rfl), fun name same => ⟨_, spelt, ?_⟩⟩
    cases same
    exact mem_of_lookup_eq_some found
  | gives log spelt new led claimed =>
    -- the name is claimed and then given: for the table, both are one step
    refine ⟨.single (.give new (claimed ▸ freshName_not_mem _ _) rfl rfl rfl), fun name same => ?_⟩
    cases same
    exact ⟨_, spelt, List.mem_append_right _ (List.mem_singleton_self _)⟩

/-! ### Text -/

theorem steps_render (generator : Generator) (declaration : Code.Declaration) :
    Steps (render generator declaration) := by
  unfold render
  split
  · exact steps_pure _
  · exact ensures_throw

theorem steps_write (text : String) : Steps (write text) := by
  intro p _ _
  simp only [write, outcome_bind, outcome_get]
  split
  next sink found =>
    have same : sink.declarations = p.sink.declarations := by
      simp only [Sink.write?, Option.ite_none_right_eq_some, Option.some.injEq] at found
      rw [← found.2]
    exact ⟨.single (.quiet rfl rfl same), fun _ _ => trivial⟩
  next => exact ⟨.refl, fun _ _ => trivial⟩

theorem steps_writeTrimmed (text : String) : Steps (writeTrimmed text) := by
  refine steps_bind ensures_get.steps fun p => ?_
  have last : Steps
      (do write text; modify fun pass => { pass with sections := pass.sections + 1 }) :=
    steps_bind (steps_write text) fun _ =>
      ensures_modify (fun _ _ _ => .quiet rfl rfl rfl) fun _ _ => trivial
  split
  · exact steps_bind (steps_write _) fun _ => last
  · exact last

/-- A declaration may be written when the names of its constants are spent. -/
theorem steps_declare (generator : Generator) (declaration : Code.Declaration) :
    Ensures (fun p => ∀ constant ∈ declaration.constants, p.Spent constant.name)
      (declare generator declaration) fun _ _ => True := by
  have stable {p q : Pass} (spent : ∀ constant ∈ declaration.constants, p.Spent constant.name)
      (evolves : p.Evolves q) : ∀ constant ∈ declaration.constants, q.Spent constant.name :=
    fun constant member => (spent constant member).evolves evolves
  refine ensures_bind ((steps_render generator declaration).keep stable) fun text => ?_
  split
  · refine ensures_bind ((steps_writeTrimmed _).keep stable) fun _ => ?_
    exact ensures_modify (fun _ _ spent => .write spent rfl rfl rfl) fun _ _ => trivial
  · exact ensures_pure fun _ _ => trivial

end Emit

end HostBindings
