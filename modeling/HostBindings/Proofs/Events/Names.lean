import HostBindings.Proofs.Events.Blocks
import HostBindings.Proofs.Runs.Complete

/-!
# The event names of strict mode

In strict mode a module is judged by its events, and a class by the events of its instances: it is
generated if all their names are let through, and it fails with the first that is not. A name should
be let through if it is made of letters, digits and a few marks of ASCII. The test lets through one
line feed behind such a name, too.

## Main definitions

* `Literal.IsEventName` — the names that should be let through
* `Literal.LetThrough` — the names that are let through
* `Generator.Judged` — what becomes of a block with some events in strict mode

## Main results

* `Literal.isPlainEventName_iff` — the test of names
* `Generator.Comes.judged` — one block
* `Generator.strict_names_judged` — runs under the default settings in strict mode
-/

namespace HostBindings

open Api (Block Event Schema)

/-! ### Names -/

namespace Literal

/-- An event name without suspicion: letters, digits and a few marks of ASCII, at least one. -/
structure IsEventName (name : List Char) : Prop where
  /-- The name is not empty. -/
  filled : name ≠ []
  /-- It has no other characters. -/
  chars : ∀ c ∈ name, c.isAlphanum = true ∨ c ∈ ['-', '_', ':', '.']

/-- The event names that are let through. -/
inductive LetThrough (name : List Char) : Prop where
  /-- A name without suspicion. -/
  | plain : IsEventName name → LetThrough name
  /-- Such a name with a line feed behind it. -/
  | ended {front : List Char} : IsEventName front → name = front ++ ['\n'] → LetThrough name

theorem isPlainEventChar_iff (c : Char) :
    isPlainEventChar c = true ↔ c.isAlphanum = true ∨ c ∈ ['-', '_', ':', '.'] := by
  have upper : c.isUpper = true ↔ 'A' ≤ c ∧ c ≤ 'Z' := by
    change decide (c.val ≥ 'A'.val ∧ c.val ≤ 'Z'.val) = true ↔ _
    exact decide_eq_true_iff
  have lower : c.isLower = true ↔ 'a' ≤ c ∧ c ≤ 'z' := by
    change (decide (c.val ≥ 'a'.val) && decide (c.val ≤ 'z'.val)) = true ↔ _
    simp only [Bool.and_eq_true, decide_eq_true_eq, ge_iff_le, Char.le_def]
  have digit : c.isDigit = true ↔ '0' ≤ c ∧ c ≤ '9' := by
    change (decide (c.val ≥ '0'.val) && decide (c.val ≤ '9'.val)) = true ↔ _
    simp only [Bool.and_eq_true, decide_eq_true_eq, ge_iff_le, Char.le_def]
  have both : c.isAlphanum = true ↔ (c.isUpper = true ∨ c.isLower = true) ∨ c.isDigit = true := by
    change ((c.isUpper || c.isLower) || c.isDigit) = true ↔ _
    simp only [Bool.or_eq_true]
  rw [both, upper, lower, digit]
  simp only [isPlainEventChar, Bool.or_eq_true, Bool.and_eq_true, decide_eq_true_eq, beq_iff_eq,
    List.mem_cons, List.not_mem_nil, or_false, or_assoc]
  -- only the order of the marks is another
  grind

/-- A name without suspicion has no line feed. -/
theorem IsEventName.lineFeed_not_mem {name : List Char} (plain : IsEventName name) :
    '\n' ∉ name := fun member => absurd (plain.chars _ member) (by decide)

theorem isEventName_iff {name : List Char} :
    (!name.isEmpty && name.all isPlainEventChar) = true ↔ IsEventName name := by
  simp only [Bool.and_eq_true, Bool.not_eq_true', List.isEmpty_eq_false_iff, List.all_eq_true,
    isPlainEventChar_iff]
  exact ⟨fun ⟨filled, chars⟩ => ⟨filled, chars⟩, fun plain => ⟨plain.filled, plain.chars⟩⟩

/-- The test of event names. -/
theorem isPlainEventName_iff (name : String) :
    isPlainEventName name = true ↔ LetThrough name.toList := by
  rw [isPlainEventName, isEventName_iff, dropLineEnd]
  split
  next feed =>
    -- the line feed is dropped, and no name without suspicion has one
    have parts : name.toList = name.toList.dropLast ++ ['\n'] :=
      (List.dropLast_append_getLast? _ feed).symm
    refine ⟨fun plain => .ended plain parts, fun through => ?_⟩
    cases through with
    | plain plain => exact absurd (List.mem_of_getLast? feed) plain.lineFeed_not_mem
    | ended plain whole => rwa [whole, List.dropLast_concat]
  next none =>
    refine ⟨.plain, fun through => ?_⟩
    cases through with
    | plain plain => exact plain
    | ended _ whole => exact absurd (by rw [whole, List.getLast?_concat]) none

end Literal

open Literal (LetThrough)

/-! ### Blocks -/

namespace Generator

variable {generator : Generator} {block : Block}

/-- What becomes of a block in strict mode, if it is judged by some events. -/
structure Judged (events : List Event) (result : BlockResult) : Prop where
  /-- The block is generated exactly if all names are let through. -/
  generated : result.isGenerated = true ↔
    ∀ event ∈ events, LetThrough event.info.name.toList
  /-- Otherwise it fails, for a reason that shows the first name that is not. -/
  failed {before : List Event} {event : Event} {after : List Event} :
    events = before ++ event :: after →
    (∀ earlier ∈ before, LetThrough earlier.info.name.toList) →
    ¬ LetThrough event.info.name.toList →
    ∃ fault, result = .failed fault ∧
      fault.message = "suspicious event name " ++ Text.display event.info.name

theorem isSuspicious_eq_false_iff (event : Event) :
    isSuspicious event = false ↔ LetThrough event.info.name.toList := by
  rw [isSuspicious, Bool.not_eq_false', Literal.isPlainEventName_iff]

theorem isSuspicious_iff (event : Event) :
    isSuspicious event = true ↔ ¬ LetThrough event.info.name.toList := by
  rw [← isSuspicious_eq_false_iff, Bool.not_eq_false]

/-- The first suspicious name of a block is the first that is not let through. -/
theorem suspect?_eq_some {before after : List Event} {event : Event}
    (events : blockEvents block = before ++ event :: after)
    (through : ∀ earlier ∈ before, LetThrough earlier.info.name.toList)
    (refused : ¬ LetThrough event.info.name.toList) : suspect? block = some event.info.name := by
  have found : (blockEvents block).find? isSuspicious = some event := by
    refine List.find?_eq_some_iff_append.mpr
      ⟨(isSuspicious_iff event).mpr refused, before, after, events, fun earlier member => ?_⟩
    rw [(isSuspicious_eq_false_iff earlier).mpr (through earlier member)]
    rfl
  rw [suspect?, found]
  rfl

theorem suspect?_eq_none_iff :
    suspect? block = none ↔ ∀ event ∈ blockEvents block, LetThrough event.info.name.toList := by
  simp only [suspect?, Option.map_eq_none_iff, List.find?_eq_none, Bool.not_eq_true,
    isSuspicious_eq_false_iff]

/-- In strict mode a block that is allowed is judged by its events. -/
theorem Comes.judged {result : BlockResult} {warnings : List String}
    (comes : generator.Comes block result warnings) (supplies : generator.Supplies)
    (strict : generator.settings.strictEvents = true)
    (allowed : generator.settings.allows block.info.processes = .ok true) :
    Judged (blockEvents block) result := by
  rcases comes.strict_cases supplies strict with ⟨forbidden, -⟩ | ⟨-, ended⟩
  · cases forbidden.symm.trans allowed
  · constructor
    · rw [← suspect?_eq_none_iff]
      cases suspect : suspect? block with
      | some name =>
        rw [suspect] at ended
        simp [ended, BlockResult.isGenerated]
      | none =>
        rw [suspect] at ended
        obtain ⟨nested, rfl⟩ := ended
        simp [BlockResult.isGenerated]
    · intro before event after events through refused
      rw [suspect?_eq_some events through refused] at ended
      exact ⟨_, ended, rfl⟩

/-! ### Runs -/

/-- The default settings, but for the mode. -/
def ofMode (mode : String) : Generator :=
  (ofTexts "electron" "js" "HostHandle" "Evt").withMode (.string mode)

/-- It is what the mode makes over the defaults. -/
theorem ofValue_ofMode [WorkingDirectory] (mode : String) (tree : FileTree) :
    (Generator.ofValue tree (.object [("event_literal_mode", .string mode)])).run.run [] =
      (.ok (ofMode mode), []) := rfl

theorem supplies_ofMode (mode : String) : (ofMode mode).Supplies :=
  have serves := serves_ofTexts "electron" "js" "HostHandle" "Evt"
  have supplies : (ofTexts "electron" "js" "HostHandle" "Evt").Supplies :=
    ⟨serves.settings, serves.stem, serves.builtin⟩
  supplies.withMode (.string mode)

theorem allows_ofMode (mode : String) (block : Block) :
    (ofMode mode).settings.allows block.info.processes = .ok true := rfl

/-- Strict mode judges event names. Under the default settings in strict mode every run into a unit
has a report with an outcome for each block in order: a module is judged by its events, a class by
the events of its instances, and any other block is generated. -/
theorem strict_names_judged [WorkingDirectory] (tree : FileTree) :
    ∃ generator,
      (Generator.ofValue tree
        (.object [("event_literal_mode", .string "strict")])).run.run [] = (.ok generator, []) ∧
      ∀ (schema : Schema) (shared : Bool), ∃ report after,
        (generator.run .toUnit shared schema).outcome
          { destination := { source := schema.source } } = (.ok report, after) ∧
        List.Forall₂ (fun block outcome => outcome.name = block.name ∧
          (block.kind = .hostModule → Judged block.events outcome.result) ∧
          (block.kind = .hostClass → Judged block.instanceEvents outcome.result) ∧
          (block.kind ≠ .hostModule → block.kind ≠ .hostClass →
            outcome.result.isGenerated = true)) schema.blocks report.outcomes := by
  have supplies := supplies_ofMode "strict"
  refine ⟨_, ofValue_ofMode "strict" tree, fun schema shared => ?_⟩
  obtain ⟨report, after, made⟩ := supplies.exists_report
    (fun block => ⟨true, allows_ofMode "strict" block⟩) shared schema
  refine ⟨report, after, made.ran, made.forall₂_outcomes fun block result warnings comes => ?_⟩
  have judged := comes.judged supplies rfl (allows_ofMode "strict" block)
  refine ⟨rfl, fun kind => ?_, fun kind => ?_, fun notModule notClass => judged.generated.mpr ?_⟩
  · rwa [blockEvents, kind] at judged
  · rwa [blockEvents, kind] at judged
  · unfold blockEvents
    split
    next kind => exact absurd kind notModule
    next kind => exact absurd kind notClass
    next => simp

end Generator

end HostBindings
