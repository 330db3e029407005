import HostBindings.Proofs.Naming.Words

/-!
# Symbols and the boundaries of words

The replacement pass goes through a name from left to right, and a pattern that applies hides those
that begin within it. Cut where no pattern reaches across, both parts are replaced as they would be
alone. A separator of a single character is such a place: what stands before it and what stands
behind it contribute to a symbol independently of one another.

## Main definitions

* `Naming.Normalizer.Separates` — characters that always stand between two words

## Main results

* `Naming.Normalizer.core_separated` — a name with such a character in it
* `Naming.core_respects_boundaries` — the default separators, and the pass of any tables
-/

namespace HostBindings.Naming

open Text (isBlank)

namespace Normalizer

variable {normalizer : Normalizer} {mark : Char} {name more : List Char}

/-- A separator of one character that no longer pattern has. -/
structure Separates (normalizer : Normalizer) (mark : Char) : Prop where
  /-- It is a separator. -/
  listed : String.singleton mark ∈ normalizer.separators
  /-- A pattern that has it has nothing else. -/
  alone : ∀ rule ∈ normalizer.rules, mark ∈ rule.pattern → rule.pattern = [mark]

namespace Separates

/-- No pattern reaches it from before. -/
theorem not_reaches (separates : normalizer.Separates mark) :
    ¬ Reaches normalizer.rules name (mark :: more) := by
  intro reaches
  obtain ⟨rule, listed, inside, long⟩ := reaches.exists_mem
  rw [separates.alone rule listed inside] at long
  exact absurd long (Nat.lt_irrefl 1)

/-- Where it begins a text, a rule that applies replaces nothing else. -/
theorem pattern_eq (separates : normalizer.Separates mark) {rule : Rule}
    (listed : rule ∈ normalizer.rules) (applies : rule.applies (mark :: more) = true) :
    rule.pattern = [mark] :=
  separates.alone rule listed (Rule.mem_pattern applies)

/-- The rule that applies there is the one of a separator, since those come before the
corrections. -/
theorem find?_applies (separates : normalizer.Separates mark) :
    normalizer.rules.find? (·.applies (mark :: more)) = some ⟨[mark], [' ']⟩ := by
  have own : (⟨[mark], [' ']⟩ : Rule) ∈ normalizer.separators.map
      fun separator => ⟨separator.toList, [' ']⟩ :=
    List.mem_map.mpr ⟨_, separates.listed, by rw [String.toList_singleton]⟩
  have applies : (⟨[mark], [' ']⟩ : Rule).applies (mark :: more) = true :=
    Rule.applies_iff.mpr ⟨List.cons_ne_nil _ _, more, rfl⟩
  have among : ((normalizer.separators.map fun separator =>
      (⟨separator.toList, [' ']⟩ : Rule)).find? (·.applies (mark :: more))).isSome :=
    List.find?_isSome.mpr ⟨_, own, applies⟩
  obtain ⟨⟨pattern, replacement⟩, found⟩ := Option.isSome_iff_exists.mp among
  have first : normalizer.rules.find? (·.applies (mark :: more)) = some ⟨pattern, replacement⟩ := by
    rw [rules, List.find?_append, found]
    rfl
  have single : pattern = [mark] :=
    separates.pattern_eq (List.mem_of_find?_eq_some first)
      (List.find?_eq_some_iff_append.mp first).1
  have space : replacement = [' '] := by
    obtain ⟨separator, -, same⟩ := List.mem_map.mp (List.mem_of_find?_eq_some found)
    exact (Rule.mk.inj same).2.symm
  rw [first, single, space]

/-- A space takes its place, and the pass goes on right behind it. -/
theorem replace_cons (separates : normalizer.Separates mark) :
    replace normalizer.rules (mark :: more) = ' ' :: replace normalizer.rules more := by
  rw [replace_cons_of_some separates.find?_applies]
  rfl

end Separates

/-- What stands before such a character and what stands behind it contribute independently of one
another. -/
theorem core_separated (separates : normalizer.Separates mark) :
    normalizer.core (name ++ mark :: more) = normalizer.core name ++ normalizer.core more := by
  have blank : isBlank ' ' = true := by decide
  rw [core, core, core, joinWords_eq_kept, joinWords_eq_kept, joinWords_eq_kept,
    replace_append separates.not_reaches, separates.replace_cons, kept_append, kept, if_pos blank]

end Normalizer

/-! ### The default tables -/

/-- The default separators are single characters, and none of them is part of a correction. -/
private theorem table_marks :
    defaultSeparators.all (fun separator => separator.toList.any fun mark =>
      separator == String.singleton mark && (Normalizer.rules {}).all fun rule =>
        !rule.pattern.contains mark || rule.pattern == [mark]) = true := by
  decide

private theorem exists_mark {separator : String} (listed : separator ∈ defaultSeparators) :
    ∃ mark, separator = String.singleton mark ∧ Normalizer.Separates {} mark := by
  have known := List.all_eq_true.mp table_marks separator listed
  simp only [List.any_eq_true, Bool.and_eq_true, beq_iff_eq, List.all_eq_true, Bool.or_eq_true,
    Bool.not_eq_true', List.contains_eq_mem, decide_eq_false_iff_not] at known
  obtain ⟨mark, -, same, alone⟩ := known
  refine ⟨mark, same, same ▸ listed, fun rule member inside => ?_⟩
  rcases alone rule member with without | single
  · exact absurd inside without
  · exact single

/-- Two names with a default separator between them have the joined words of the first and behind
them those of the second. And under any tables the replacement pass can be done for two parts of a
name apart, unless an occurrence of a pattern begins in the first part and ends in the second
one. -/
theorem core_respects_boundaries :
    (∀ separator ∈ defaultSeparators, ∀ name more : String,
      Normalizer.core {} (name ++ separator ++ more).toList =
        Normalizer.core {} name.toList ++ Normalizer.core {} more.toList) ∧
    ∀ (normalizer : Normalizer) (name more : String),
      ¬ Reaches normalizer.rules name.toList more.toList →
      replace normalizer.rules (name ++ more).toList =
        replace normalizer.rules name.toList ++ replace normalizer.rules more.toList := by
  constructor
  · intro separator listed name more
    obtain ⟨mark, rfl, separates⟩ := exists_mark listed
    have split : (name ++ String.singleton mark ++ more).toList =
        name.toList ++ mark :: more.toList := by simp
    rw [split, Normalizer.core_separated separates]
  · intro normalizer name more apart
    rw [String.toList_append, replace_append apart]

/-- A correction begins at the end of the first part and is not met, since the second part goes on
differently; behind the boundary it is. -/
theorem core_respects_boundaries_sample :
    "-" ∈ defaultSeparators ∧ Normalizer.core {} "will-url".toList = "WillURL".toList ∧
      ¬ Reaches (Normalizer.rules {}) "ur".toList "url".toList ∧
      replace (Normalizer.rules {}) "ururl".toList = "urURL".toList := by
  have listed : "-" ∈ defaultSeparators := by decide
  have apart : ¬ Reaches (Normalizer.rules {}) "ur".toList "url".toList := by decide
  have core := core_respects_boundaries.1 "-" listed "will" "url"
  have replaced := core_respects_boundaries.2 {} "ur" "url" apart
  exact ⟨listed, core.trans (by decide), apart, replaced.trans (by decide)⟩

-- where a correction reaches across, the parts do not make the whole
example : Reaches (Normalizer.rules {}) "u".toList "rl".toList ∧
    replace (Normalizer.rules {}) "url".toList = "URL".toList ∧
    replace (Normalizer.rules {}) "u".toList ++ replace (Normalizer.rules {}) "rl".toList =
      "url".toList := by
  decide

end HostBindings.Naming
