import HostBindings.Proofs.Emission.Drain
import HostBindings.Proofs.Runs.Blocks
import Mathlib.Data.List.Nodup

/-!
# Nested declarations

What a block needs beyond its own structure is declared with it: a type that the text of the block
relies on is a name that was given during the pass, and each such name is declared there once, in
the order in which the names were given. Nothing is left over, and what is counted is what was
declared.

## Main definitions

* `Generator.Shows` — the number of nested declarations that the outcome of a block shows

## Main results

* `Accounts.nodup` — the names of a finished pass are declared once
* `Generator.nested_declared_once` — so are the names that it relies on
-/

namespace HostBindings

open Api (Block)

/-- When nothing waits any more, every name is written once. -/
theorem Accounts.nodup {taken own names written : List String}
    (accounts : Accounts taken own names written []) (once : own.Nodup) (old : own ⊆ taken) :
    written.Nodup := by
  obtain ⟨claimed, -, nodup, fresh, perm⟩ := accounts
  rw [List.append_nil] at perm
  refine perm.nodup_iff.mpr (List.nodup_append.mpr ⟨once, nodup, ?_⟩)
  rintro name owned _ claim rfl
  exact fresh name claim (old owned)

namespace Generator

variable {settings : Settings} {generator : Generator}

/-- What a generator is that settings make. -/
theorem ofSettings_eq_ok :
    Generator.ofSettings settings = .ok generator ↔
      ∃ extra types, correctionsOf settings = .ok extra ∧
        TypeSettings.ofSettings settings = .ok types ∧ generator =
          { settings, types,
            naming := .ofTables (.ofCorrections extra settings.moduleSuffix) } := by
  simp only [ofSettings, bind_eq_ok_iff, mapError_eq_ok_iff, pure, Except.pure, Except.ok.injEq]
  constructor
  · rintro ⟨extra, read, types, checked, rfl⟩
    exact ⟨extra, types, read, checked, rfl⟩
  · rintro ⟨extra, types, read, checked, rfl⟩
    exact ⟨extra, read, types, checked, rfl⟩

/-- A generator that settings make has the templates of the language. -/
theorem templates_ofSettings (configured : Generator.ofSettings settings = .ok generator) :
    generator.templates = .builtin := by
  obtain ⟨_, _, -, -, rfl⟩ := ofSettings_eq_ok.mp configured
  rfl

/-- A generator that settings make has these settings. -/
theorem settings_ofSettings (configured : Generator.ofSettings settings = .ok generator) :
    generator.settings = settings := by
  obtain ⟨_, _, -, -, rfl⟩ := ofSettings_eq_ok.mp configured
  rfl

/-- A type is one of the names of its declaration. -/
theorem mem_names_of_typeName? {declaration : Code.Declaration} {name : String}
    (typed : declaration.typeName? = some name) : name ∈ declaration.names := by
  cases declaration <;> simp_all [Code.Declaration.typeName?, Code.Declaration.names]

/-- The number of nested declarations of a block under settings, if its pass succeeds. -/
def nestedCount? (settings : Settings) (block : Block) (reserved : List String) : Option Nat := do
  let generator ← (Generator.ofSettings settings).toOption
  let start ← (Pass.start generator block reserved).toOption
  ((generator.emission block).outcome start).1.toOption

theorem exists_runs {block : Block} {reserved : List String} {count : Nat}
    (counted : nestedCount? settings block reserved = some count) :
    ∃ generator start pass, Generator.ofSettings settings = .ok generator ∧
      Pass.start generator block reserved = .ok start ∧
      Emit.Runs (generator.emission block) start count pass := by
  simp only [nestedCount?, Option.bind_eq_bind, Option.bind_eq_some_iff,
    toOption_eq_some_iff] at counted
  obtain ⟨generator, configured, start, started, result⟩ := counted
  exact ⟨generator, start, _, configured, started, Prod.ext result rfl⟩

/-- Wherever a block goes, an outcome that says it was generated shows this number of nested
declarations. -/
def Shows (generator : Generator) (block : Block) (reserved : List String) (count : Nat) : Prop :=
  ∀ {σ η : Type} (destination : Destination σ η) (shared : Bool) (state : RunState σ) (n : Nat),
    state.reserved = reserved →
    ((generator.runBlock destination shared block).outcome state).2.outcomes =
      state.outcomes ++ [⟨block.name, .generated n⟩] → n = count

theorem shows_of_runs {block : Block} {reserved : List String} {start pass : Pass} {count : Nat}
    (started : Pass.start generator block reserved = .ok start)
    (run : Emit.Runs (generator.emission block) start count pass) :
    generator.Shows block reserved count := by
  rintro σ η destination shared state n rfl shown
  have ended := blockEnd_runBlock generator destination shared block state
  generalize ((generator.runBlock destination shared block).outcome state).1 = result at ended
  generalize ((generator.runBlock destination shared block).outcome state).2 = after at shown ended
  cases ended with
  | unprepared _ _ adds => simp [adds.outcomes] at shown
  | skipped _ _ adds => simp [adds.outcomes] at shown
  | lost _ _ _ adds => simp [adds.outcomes] at shown
  | failed fault _ _ adds => simp [adds.outcomes] at shown
  | generated prepared emitted _ _ adds =>
    -- the pass depends on nothing but the block and the taken names
    obtain ⟨-, again⟩ := prepare_eq_some.mp prepared
    rw [started] at again
    cases again
    have same := run.symm.trans emitted
    simp only [adds.outcomes, List.append_cancel_left_eq, List.cons.injEq, Outcome.mk.injEq,
      BlockResult.generated.injEq, true_and, and_true] at shown
    simp only [Prod.mk.injEq, Except.ok.injEq] at same
    rw [← shown, same.1]

/-- A pass that succeeds declares every nested entity once: whatever its declarations rely on is a
name that was given, and every such name is declared once; the nested declarations come after the
structure of the block, in the order of their names; nothing waits, and the number of nested
declarations is the answer of the pass, and what the outcome of the block shows. -/
theorem nested_declared_once {block : Block} {reserved : List String} {start pass : Pass}
    {count : Nat} (configured : Generator.ofSettings settings = .ok generator)
    (started : Pass.start generator block reserved = .ok start)
    (run : Emit.Runs (generator.emission block) start count pass) :
    pass.sink.declarations.flatMap (·.uses) ⊆ pass.allocated ∧
      (∀ name ∈ pass.allocated, (pass.sink.declarations.flatMap (·.names)).count name = 1) ∧
      (∃ before comments handle fields nested,
        pass.sink.declarations =
          before ++ .composite comments start.scope.symbol handle fields :: nested ∧
        before.filterMap (·.typeName?) = [] ∧
        nested.map (·.typeName?) = pass.allocated.map some) ∧
      pass.sink.text = Code.textOf pass.sink.declarations ∧
      pass.scope.pending = [] ∧
      count = pass.allocated.length ∧
      generator.Shows block reserved count := by
  obtain ⟨primary, nested, fits, progress, empty, length⟩ :=
    progress_emission (templates_ofSettings configured) started run
  have allocated : pass.allocated = pass.declared.map (·.name) := by
    simpa [empty] using progress.waits.allocated
  have types : nested.map (·.typeName?) = pass.allocated.map some := by
    rw [allocated, List.map_map]
    exact (forall₂_map_eq progress.nested fun fits => fits.typeName?.symm).symm
  -- in the end nothing waits, so the accounts are those of the declarations alone
  have once : (pass.sink.declarations.flatMap (·.names)).Nodup := by
    have accounts := progress.accounts
    rw [empty, List.map_nil] at accounts
    rw [progress.written]
    refine accounts.nodup (List.nodup_singleton _) ?_
    simpa using symbol_mem_start started
  refine ⟨?_, ?_, ?_, progress.prints.text, empty, by rw [length, allocated, List.length_map],
    shows_of_runs started run⟩
  · rw [progress.written, List.flatMap_append, List.append_subset]
    refine ⟨fits.uses_subset, fun name member => ?_⟩
    obtain ⟨declaration, written, used⟩ := List.mem_flatMap.mp member
    obtain ⟨_, -, declarationFor⟩ := exists_item_of_mem progress.nested written
    exact declarationFor.uses_subset used
  · intro name member
    have typed : some name ∈ nested.map (·.typeName?) := types ▸ List.mem_map_of_mem member
    obtain ⟨declaration, written, named⟩ := List.mem_map.mp typed
    refine List.count_eq_one_of_mem once (List.mem_flatMap.mpr ⟨declaration, ?_, ?_⟩)
    · rw [progress.written]
      exact List.mem_append_right _ written
    · exact mem_names_of_typeName? named
  · cases fits with
    | plain =>
      exact ⟨[], _, _, _, nested, progress.written, rfl, types⟩
    | withEvents =>
      exact ⟨[_], _, _, _, nested, progress.written, rfl, types⟩

/-- A structure with a nested one. -/
def nestedSample : Block :=
  { info := { name := "menu", rawType := .single "Object" }
    properties :=
      [{ info := { name := "item", rawType := .single "Object" }
         properties := [{ info := { name := "label", rawType := .single "String" } }] }] }

theorem nested_declared_once_sample :
    nestedCount? {} nestedSample [] = some 1 ∧
      ∃ generator start pass, Generator.ofSettings {} = .ok generator ∧
        Pass.start generator nestedSample [] = .ok start ∧
        Emit.Runs (generator.emission nestedSample) start 1 pass ∧
        pass.sink.declarations.flatMap (·.uses) ⊆ pass.allocated ∧
        (∀ name ∈ pass.allocated, (pass.sink.declarations.flatMap (·.names)).count name = 1) ∧
        pass.scope.pending = [] ∧ pass.allocated.length = 1 ∧
        generator.Shows nestedSample [] 1 := by
  have counted : nestedCount? {} nestedSample [] = some 1 := by decide +kernel
  obtain ⟨generator, start, pass, configured, started, run⟩ := exists_runs counted
  obtain ⟨uses, once, -, -, empty, length, shows⟩ := nested_declared_once configured started run
  exact ⟨counted, generator, start, pass, configured, started, run, uses, once, empty, length.symm,
    shows⟩

end Generator

end HostBindings
