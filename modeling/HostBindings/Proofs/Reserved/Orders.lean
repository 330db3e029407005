import HostBindings.Proofs.Names.Fresh
import HostBindings.Proofs.Reserved.Declarations

/-!
# Passes where the same names are taken

The names that are taken when a pass starts have an order, which comes from the order of the blocks.
The pass does not depend on it: it does the same wherever the same names are taken.

## Main results

* `Generator.emission_of_same_names` — a pass, with the taken names in another order
-/

namespace HostBindings.Generator

open Api (Block)

variable {generator : Generator} {block : Block} {reserved reserved' : List String}

/-- While a name is not claimed, a pass beside one where it is taken does the same. -/
theorem emission_of_undeclared (builtin : generator.templates = .builtin) {extra : String}
    {start start' : Pass} (beside : Pass.Beside extra True start start')
    (free : extra ∉ ((generator.emission block).outcome start).2.scope.names) :
    ((generator.emission block).outcome start').1 = ((generator.emission block).outcome start).1 ∧
      ∃ names, ((generator.emission block).outcome start').2 =
        { ((generator.emission block).outcome start).2 with
          scope := { ((generator.emission block).outcome start).2.scope with names } } := by
  obtain ⟨later, -, passes, ends⟩ := follows_emission builtin block start start' beside
  have together : later := by
    by_contra parted
    exact free (passes.parted parted)
  obtain ⟨names, same, -⟩ := passes.same together
  refine ⟨?_, names, same⟩
  generalize ((generator.emission block).outcome start).1 = first at ends ⊢
  generalize ((generator.emission block).outcome start').1 = second at ends ⊢
  cases ends with
  | failed => rfl
  | done equal => rw [equal together]

/-- Where the same names are taken, in whatever order, a pass ends in the same way, with the same
text, imports and warnings. -/
theorem emission_of_same_names (builtin : generator.templates = .builtin)
    (same : ∀ name, name ∈ reserved' ↔ name ∈ reserved) {start : Pass}
    (started : Pass.start generator block reserved = .ok start)
    (taken : start.scope.symbol ∈ reserved) :
    ∃ start', Pass.start generator block reserved' = .ok start' ∧
      start'.scope.symbol = start.scope.symbol ∧
      ((generator.emission block).outcome start').1 =
        ((generator.emission block).outcome start).1 ∧
      ((generator.emission block).outcome start').2.sink =
        ((generator.emission block).outcome start).2.sink ∧
      ((generator.emission block).outcome start').2.warnings =
        ((generator.emission block).outcome start).2.warnings := by
  obtain ⟨symbol, stem, spelt, named, own⟩ := start_eq_ok.mp started
  obtain ⟨start', started'⟩ : ∃ start', Pass.start generator block reserved' = .ok start' :=
    ⟨_, start_eq_ok.mpr ⟨symbol, stem, spelt, named, rfl⟩⟩
  have symbol' : start'.scope.symbol = start.scope.symbol :=
    symbol_of_start started' (baseSymbol_of_start started)
  -- both are compared with a pass in which one name more is taken, which neither of them claims
  let extra := freshName (((generator.emission block).outcome start).2.scope.names ++
    ((generator.emission block).outcome start').2.scope.names) "x"
  have free : extra ∉ _ := freshName_not_mem _ _
  rw [List.mem_append, not_or] at free
  have grown : ∀ name, name ∈ extra :: reserved ↔ name ∈ reserved ∨ name = extra := fun name => by
    rw [List.mem_cons, or_comm]
  have grown' : ∀ name, name ∈ extra :: reserved ↔ name ∈ reserved' ∨ name = extra :=
    fun name => by rw [grown, same]
  obtain ⟨third, starts, -, beside⟩ := beside_start grown started taken
  obtain ⟨_, starts', -, beside'⟩ :=
    beside_start grown' started' (symbol' ▸ (same _).mpr taken)
  cases starts.symm.trans starts'
  obtain ⟨result, names, pass⟩ := emission_of_undeclared builtin beside free.1
  obtain ⟨result', names', pass'⟩ := emission_of_undeclared builtin beside' free.2
  refine ⟨start', started', symbol', result'.symm.trans result, ?_, ?_⟩
  · exact (congrArg Pass.sink (pass'.symm.trans pass) :)
  · exact (congrArg Pass.warnings (pass'.symm.trans pass) :)

end HostBindings.Generator
