import HostBindings.Proofs.Emission.Visits
import HostBindings.Proofs.Reviews.Nodes
import Mathlib.Data.List.Flatten
import Mathlib.Data.List.Perm.Subperm

/-!
# Declaring what waits

The declarations that wait are written in rounds: the first is taken and written, and those that it
makes wait are put behind the others. The rounds go on for as long as anything waits. Nothing bounds
their number from outside; they end because every declaration only makes properties below its own
wait, so that no property is declared twice.

## Main definitions

* `PropertyNode.subtree` — a node and all nodes below it
* `Generator.Drains` — the rounds, up to the end or the first fault

## Main results

* `Generator.Drains.unique` — the rounds can go one way only
* `Generator.Drains.subperm` — every node below those that wait is declared at most once
* `Generator.exists_drains` — the rounds end, as those do whose number is limited
* `Generator.drain_terminates`
-/

namespace HostBindings

/-- A node and all nodes below it. -/
def PropertyNode.subtree (node : PropertyNode) : List PropertyNode :=
  (Generator.nodePaths "" node).map (·.2)

namespace Generator

variable {generator : Generator} {p q : Pass}

/-- Whatever its paths begin with, the nodes of a list of paths are those of the subtree. -/
theorem map_snd_nodePaths (lead : String) (node : PropertyNode) :
    (nodePaths lead node).map (·.2) = node.subtree := by
  rw [PropertyNode.subtree]
  generalize "" = other
  -- what a path begins with changes on the way down, for both lists
  induction node using induction_below generalizing lead other with
  | step node ih =>
    rw [nodePaths_eq, nodePaths_eq, List.map_cons, List.map_cons, List.map_flatMap,
      List.map_flatMap]
    exact congrArg _ (List.flatMap_congr fun child member => ih child member _ _)

/-- The subtree of a node is the node, and the subtrees of the nodes one level below. -/
theorem subtree_eq (node : PropertyNode) :
    node.subtree = node :: node.children.flatMap PropertyNode.subtree := by
  rw [PropertyNode.subtree, nodePaths_eq, List.map_cons, List.map_flatMap]
  exact congrArg _ (List.flatMap_congr fun child _ => map_snd_nodePaths _ child)

/-- The first declaration that waits is taken and written, and so on until none waits or one fails.
The list has those that were written. -/
inductive Drains (generator : Generator) :
    Pass → List Pending → Except PassFault Unit → Pass → Prop where
  /-- Nothing waits. -/
  | done {p : Pass} : p.scope.pending = [] → Drains generator p [] (.ok ()) p
  /-- The first is written, and the rounds go on. -/
  | round {p m q : Pass} {pending : Pending} {rest emitted : List Pending}
      {result : Except PassFault Unit} : p.scope.pending = pending :: rest →
      Emit.Runs (generator.declarePending pending)
        { p with scope := { p.scope with pending := rest } } () m →
      Drains generator { m with declared := m.declared ++ [pending] } emitted result q →
      Drains generator p (pending :: emitted) result q
  /-- The first cannot be written. -/
  | failed {p q : Pass} {pending : Pending} {rest : List Pending} {fault : PassFault} :
      p.scope.pending = pending :: rest →
      (generator.declarePending pending).outcome
        { p with scope := { p.scope with pending := rest } } = (.error fault, q) →
      Drains generator p [] (.error fault) q

variable {emitted : List Pending} {result : Except PassFault Unit}

/-- A declaration that is written makes some nodes one level below it wait. So does one that
fails. -/
theorem queues_declarePending {pending : Pending} {answer : Except PassFault Unit}
    (ran : (generator.declarePending pending).outcome p = (answer, q)) :
    q.declared = p.declared ∧ ∃ queued : List Pending,
      q.scope.pending = p.scope.pending ++ queued ∧
      (queued.map (·.node)).Sublist pending.node.children := by
  have visiting : Emit.Visiting generator _ _ := visiting_declarePending pending
  have visited := visiting p
  rw [ran] at visited
  simpa using visited.queues

namespace Drains

theorem unique {emitted' : List Pending} {result' : Except PassFault Unit} {q' : Pass}
    (drains : generator.Drains p emitted result q)
    (others : generator.Drains p emitted' result' q') :
    emitted' = emitted ∧ result' = result ∧ q' = q := by
  -- both take the same first one out of what waits, and its outcome says how they go on
  induction drains generalizing emitted' result' q' with
  | done none =>
    cases others with
    | done => exact ⟨rfl, rfl, rfl⟩
    | round some | failed some => simp [none] at some
  | round some run _ ih =>
    cases others with
    | done none => simp [none] at some
    | round some' run' drains' =>
      cases some.symm.trans some'
      rw [Emit.Runs, run] at run'
      cases run'
      obtain ⟨rfl, rfl, rfl⟩ := ih drains'
      exact ⟨rfl, rfl, rfl⟩
    | failed some' fails =>
      cases some.symm.trans some'
      rw [run] at fails
      cases fails
  | failed some fails =>
    cases others with
    | done none => simp [none] at some
    | round some' run =>
      cases some.symm.trans some'
      rw [Emit.Runs, fails] at run
      cases run
    | failed some' fails' =>
      cases some.symm.trans some'
      rw [fails] at fails'
      cases fails'
      exact ⟨rfl, rfl, rfl⟩

/-- What was written is recorded in order. -/
theorem declared (drains : generator.Drains p emitted result q) :
    q.declared = p.declared ++ emitted := by
  induction drains with
  | done => simp
  | round _ run _ ih => simp [ih, (queues_declarePending run).1]
  | failed _ fails => simp [(queues_declarePending fails).1]

/-- Without a fault, the rounds end when nothing waits. -/
theorem pending_eq_nil (drains : generator.Drains p emitted result q) (succeeds : result = .ok ()) :
    q.scope.pending = [] := by
  induction drains with
  | done none => exact none
  | round _ _ _ ih => exact ih succeeds
  | failed => cases succeeds

/-- Every node at some depth below those that wait is declared at most once. -/
theorem subperm (drains : generator.Drains p emitted result q) :
    (emitted.map (·.node)).Subperm (p.scope.pending.flatMap (·.node.subtree)) := by
  induction drains with
  | done | failed => exact List.nil_subperm
  | @round p m q pending rest emitted _ some run _ ih =>
    obtain ⟨-, queued, waiting, below⟩ := queues_declarePending run
    have fewer : (queued.flatMap (·.node.subtree)).Sublist
        (pending.node.children.flatMap PropertyNode.subtree) := by
      simpa [List.flatMap_map] using below.flatMap PropertyNode.subtree
    -- the node of the first one goes, and what is below it comes behind the others
    rw [some, List.flatMap_cons, subtree_eq, List.map_cons, List.cons_append]
    refine (List.subperm_cons _).mpr (ih.trans ?_)
    rw [waiting, List.flatMap_append]
    exact ((List.Sublist.refl _).append fewer).subperm.trans List.perm_append_comm.subperm

end Drains

/-- The rounds end, and they are those that are limited to the number of properties in what
waits. -/
theorem exists_drains (generator : Generator) {limit : Nat} (enough : waitingCount p ≤ limit) :
    ∃ emitted result q, generator.Drains p emitted result q ∧
      (generator.drainUpTo limit).outcome p = (result.map fun _ => emitted.length, q) := by
  -- a round lowers the number of properties in what waits, so one less is enough behind it
  induction limit generalizing p with
  | zero =>
    exact ⟨[], .ok (), p, .done (pending_eq_nil_of_waitingCount enough), rfl⟩
  | succ limit ih =>
    rw [drainUpTo, Emit.outcome_bind, Emit.outcome_get]
    dsimp only
    split
    next waiting => exact ⟨[], .ok (), p, .done waiting, rfl⟩
    next pending rest waiting =>
      simp only [Emit.outcome_bind, Emit.outcome_set, Emit.outcome_modify, Emit.outcome_pure]
      rcases ran : (generator.declarePending pending).outcome
        { p with scope := { p.scope with pending := rest } } with ⟨fault | _, m⟩
      · exact ⟨[], .error fault, m, .failed waiting ran, rfl⟩
      · obtain ⟨-, queued, queue, below⟩ := queues_declarePending ran
        have fewer : waitingCount { m with declared := m.declared ++ [pending] } < waitingCount p :=
          waitingCount_lt waiting queue below
        obtain ⟨emitted, result, q, drains, same⟩ :=
          ih (Nat.le_of_lt_succ (Nat.lt_of_lt_of_le fewer enough))
        refine ⟨pending :: emitted, result, q, .round waiting ran drains, ?_⟩
        dsimp only
        rw [same]
        cases result <;> rfl

/-- From every state of a pass, the declarations that wait are written in rounds that come to an
end, and in one way only: all are written, or one fails and its fault is the answer. Whatever the
declarations make wait on the way, no node is declared twice, and only nodes are that stood below
those that waited at the start; so there are at most as many declarations as such nodes. -/
theorem drain_terminates (generator : Generator) (p : Pass) :
    ∃ emitted result q, generator.Drains p emitted result q ∧
      (∀ emitted' result' q', generator.Drains p emitted' result' q' →
        emitted' = emitted ∧ result' = result ∧ q' = q) ∧
      generator.drain.outcome p = (result.map fun _ => emitted.length, q) ∧
      q.declared = p.declared ++ emitted ∧
      (result = .ok () → q.scope.pending = []) ∧
      (emitted.map (·.node)).Subperm (p.scope.pending.flatMap (·.node.subtree)) ∧
      emitted.length ≤ (p.scope.pending.flatMap (·.node.subtree)).length := by
  obtain ⟨emitted, result, q, drains, same⟩ :=
    generator.exists_drains (Nat.le_refl (waitingCount p))
  refine ⟨emitted, result, q, drains, fun _ _ _ others => drains.unique others, same,
    drains.declared, drains.pending_eq_nil, drains.subperm, ?_⟩
  simpa using drains.subperm.length_le

end Generator

end HostBindings
