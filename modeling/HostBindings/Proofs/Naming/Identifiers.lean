import HostBindings.Proofs.Naming.Words
import HostBindings.Proofs.Text.Letters

/-!
# Symbols as identifiers

Under the default tables a symbol has characters of words only and no separator, and it does not
begin with a digit. It begins with a letter unless the first character of the name that is left over
is a number which is no digit, such as a fraction or a Roman numeral: only digits are mended.

## Main definitions

* `Naming.LeadsWithNumeral` — names whose first character that is left over is such a number

## Main results

* `Naming.leadsWithNumeral_of_core`, `Naming.LeadsWithNumeral.exists_core` — what leads the joined
  words of a name
* `Naming.symbols_begin_with_letters`
-/

namespace HostBindings.Naming

open Text (isBlank isDigit isLetter isNumeral isWordChar)

variable {begins : Bool} {c d : Char} {name text : List Char}

/-! ### The default rules -/

/-- The separators are single characters, and of the corrections no piece has a number. -/
private theorem table_rules :
    (Normalizer.rules {}).all (fun rule =>
      rule.pattern.all (fun c => !isNumeral c) &&
        rule.replacement.all fun c => !isNumeral c && c != '_') = true := by
  decide +kernel

private theorem numeral_not_mem_rules {rule : Rule} (listed : rule ∈ Normalizer.rules {})
    (number : isNumeral c = true) : c ∉ rule.pattern ∧ c ∉ rule.replacement := by
  have known := List.all_eq_true.mp table_rules rule listed
  simp only [Bool.and_eq_true, List.all_eq_true, Bool.not_eq_true'] at known
  constructor
  · intro inside
    rw [known.1 c inside] at number
    cases number
  · intro inside
    rw [(known.2 c inside).1] at number
    cases number

/-! ### What characters contribute -/

theorem upper_ne_nil (c : Char) : Text.upper c ≠ [] := by
  unfold Text.upper
  split
  next images found =>
    have some : Text.upperSequences.all (fun entry => !entry.2.isEmpty) = true := by decide
    have this := List.all_eq_true.mp some _ (mem_of_lookup_eq_some found)
    simpa using this
  · exact List.cons_ne_nil _ _

/-- What a character contributes is a number where the character is one. -/
theorem isNumeral_of_mem_image (member : d ∈ image begins c) : isNumeral d = isNumeral c := by
  have inside := (List.mem_filter.mp member).1
  split at inside
  · exact Text.isNumeral_of_mem_upper inside
  · rw [List.mem_singleton.mp inside]

/-- A number contributes something. -/
theorem image_ne_nil_of_isNumeral (number : isNumeral c = true) : image begins c ≠ [] := by
  have all : ∀ d ∈ if begins then Text.upper c else [c], isNumeral d = true := by
    intro d inside
    split at inside
    · rwa [Text.isNumeral_of_mem_upper inside]
    · rwa [List.mem_singleton.mp inside]
  rw [image, List.filter_eq_self.mpr fun d inside => Text.isWordChar_of_isNumeral (all d inside)]
  split
  · exact upper_ne_nil c
  · exact List.cons_ne_nil _ _

theorem underscore_of_mem_image (member : '_' ∈ image begins c) : c = '_' := by
  have inside := (List.mem_filter.mp member).1
  split at inside
  · exact Text.eq_underscore_of_mem_upper inside
  · exact (List.mem_singleton.mp inside).symm

/-- Every character of the joined words is contributed by one of the text. -/
theorem exists_of_mem_kept (member : d ∈ kept begins text) :
    ∃ c ∈ text, ∃ first, d ∈ image first c := by
  induction text generalizing begins with
  | nil => cases member
  | cons c rest ih =>
    rw [kept] at member
    split at member
    · obtain ⟨e, inside, first, from_⟩ := ih member
      exact ⟨e, List.mem_cons_of_mem c inside, first, from_⟩
    · rcases List.mem_append.mp member with here | later
      · exact ⟨c, List.mem_cons_self, begins, here⟩
      · obtain ⟨e, inside, first, from_⟩ := ih later
        exact ⟨e, List.mem_cons_of_mem c inside, first, from_⟩

/-! ### The joined words of a name -/

theorem isWordChar_of_mem_core (member : c ∈ Normalizer.core {} name) : isWordChar c = true :=
  (List.mem_filter.mp member).2

/-- The underscore is a separator, so nothing contributes one. -/
theorem underscore_not_mem_core : '_' ∉ Normalizer.core {} name := by
  intro member
  rw [Normalizer.core, joinWords_eq_kept] at member
  obtain ⟨c, inside, first, from_⟩ := exists_of_mem_kept member
  rw [underscore_of_mem_image from_] at inside
  have separates : ⟨"_".toList, [' ']⟩ ∈ Normalizer.rules {} :=
    Normalizer.mem_rules_of_separator (by decide)
  refine not_mem_replace separates rfl (fun rule listed => ?_) inside
  intro there
  have known := List.all_eq_true.mp table_rules rule listed
  simp only [Bool.and_eq_true, List.all_eq_true] at known
  simpa using (known.2 '_' there).2

/-- A name of which the first character that is left over is a number, but no digit. -/
def LeadsWithNumeral (name : List Char) : Prop :=
  ∃ before c rest, name = before ++ c :: rest ∧ Normalizer.core {} before = [] ∧
    isNumeral c = true

/-- Where a number leads the joined words, one leads the name. -/
theorem leadsWithNumeral_of_core {rest : List Char}
    (joined : Normalizer.core {} name = c :: rest) (number : isNumeral c = true) :
    LeadsWithNumeral name := by
  rw [Normalizer.core, joinWords_eq_kept] at joined
  obtain ⟨before, d, after, more, found, dropped, -, first⟩ := exists_of_kept_eq_cons joined
  have same : isNumeral d = true := by
    rwa [← isNumeral_of_mem_image (first ▸ List.mem_cons_self)]
  -- the character comes from the name itself, with nothing left over before it
  obtain ⟨start, rest, rfl, -, made, -⟩ :=
    exists_of_replaceFrom_eq (fun rule listed => (numeral_not_mem_rules listed same).2) found
  refine ⟨start, d, rest, rfl, ?_, same⟩
  rw [Normalizer.core, joinWords_eq_kept, replace, made, dropped]

/-- No rule applies at a number. -/
private theorem find?_applies_numeral (number : isNumeral c = true) :
    (Normalizer.rules {}).find? (·.applies (c :: text)) = none := by
  refine List.find?_eq_none.mpr fun rule listed applies => ?_
  exact (numeral_not_mem_rules listed number).1 (Rule.mem_pattern applies)

/-- Where a number leads the name, one leads the joined words. -/
theorem LeadsWithNumeral.exists_core (leads : LeadsWithNumeral name) :
    ∃ c rest, Normalizer.core {} name = c :: rest ∧ isNumeral c = true := by
  obtain ⟨before, d, after, rfl, dropped, number⟩ := leads
  have apart : ¬ Reaches (Normalizer.rules {}) before (d :: after) :=
    not_reaches_of_not_mem fun rule listed => (numeral_not_mem_rules listed number).1
  have solid : isBlank d = false :=
    Text.not_isBlank_of_isWordChar (Text.isWordChar_of_isNumeral number)
  rw [Normalizer.core, joinWords_eq_kept] at dropped
  rw [Normalizer.core, joinWords_eq_kept, replace_append apart,
    replace_cons_of_none (find?_applies_numeral number), kept_append, dropped, List.nil_append,
    kept, if_neg (by simp [solid])]
  cases here : image (beginsAfter true (replace (Normalizer.rules {}) before)) d with
  | nil => exact absurd here (image_ne_nil_of_isNumeral number)
  | cons first others =>
    exact ⟨first, _, rfl, by rwa [isNumeral_of_mem_image (here ▸ List.mem_cons_self)]⟩

/-! ### Symbols -/

/-- A separator has the underscore or a character that no word has. -/
private theorem table_separators :
    defaultSeparators.all (fun separator =>
      separator.toList.any fun mark => mark == '_' || !isWordChar mark) = true := by
  decide

/-- The first character of a symbol is a number, but no digit, where the name leads with one. -/
private theorem exists_normalize_eq (name : String) :
    ∃ c rest, (normalize name).toList = c :: rest ∧ isDigit c = false ∧
      (isNumeral c = true ↔ LeadsWithNumeral name.toList) := by
  cases joined : Normalizer.core {} name.toList with
  | nil =>
    have idle : ¬ LeadsWithNumeral name.toList := by
      intro leads
      obtain ⟨c, rest, found, -⟩ := leads.exists_core
      cases joined.symm.trans found
    exact ⟨'O', ['b', 'j'], toList_normalize_nil joined, by decide, iff_of_false (by decide) idle⟩
  | cons c rest =>
    have leads : isNumeral c = true ↔ LeadsWithNumeral name.toList := by
      refine ⟨leadsWithNumeral_of_core joined, fun leads => ?_⟩
      obtain ⟨d, others, found, number⟩ := leads.exists_core
      cases joined.symm.trans found
      exact number
    cases digit : isDigit c with
    | true =>
      -- the digit is mended, and a digit is no other number
      refine ⟨'X', c :: rest, toList_normalize_digit joined digit, by decide,
        iff_of_false (by decide) fun there => ?_⟩
      rw [Text.isDigit_eq_false_of_isNumeral (leads.mpr there)] at digit
      cases digit
    | false => exact ⟨c, rest, toList_normalize_cons joined digit, digit, leads⟩

theorem isWordChar_of_mem_normalize {name : String} (member : c ∈ (normalize name).toList) :
    isWordChar c = true ∧ c ≠ '_' := by
  have fixed : ∀ d ∈ ['O', 'b', 'j', 'X'], isWordChar d = true ∧ d ≠ '_' := by
    have all : ['O', 'b', 'j', 'X'].all (fun d => isWordChar d && d != '_') = true := by decide
    simpa using all
  have core (inside : c ∈ Normalizer.core {} name.toList) : isWordChar c = true ∧ c ≠ '_' := by
    refine ⟨isWordChar_of_mem_core inside, ?_⟩
    rintro rfl
    exact underscore_not_mem_core inside
  -- the characters are those of the joined words and of the texts set for empty and numeric ones
  cases joined : Normalizer.core {} name.toList with
  | nil =>
    rw [toList_normalize_nil joined] at member
    exact fixed c (List.mem_append_left ['X'] member)
  | cons first rest =>
    rw [joined] at core
    cases digit : isDigit first with
    | true =>
      rw [toList_normalize_digit joined digit] at member
      rcases List.mem_cons.mp member with rfl | inside
      · exact fixed 'X' (by decide)
      · exact core inside
    | false =>
      rw [toList_normalize_cons joined digit] at member
      exact core member

/-- Whatever a name is, its symbol under the default tables is not empty, has characters of words
only, no separator and no digit in front. It begins with a letter unless the name leads with a
number that is no digit, and then it begins with such a number. -/
theorem symbols_begin_with_letters (name : String) :
    (∀ c ∈ (normalize name).toList, isWordChar c = true) ∧
      (∀ separator ∈ defaultSeparators, ¬ separator.toList <:+: (normalize name).toList) ∧
      ∃ c rest, (normalize name).toList = c :: rest ∧ isDigit c = false ∧
        (isLetter c = true ↔ ¬ LeadsWithNumeral name.toList) ∧
        (isNumeral c = true ↔ LeadsWithNumeral name.toList) := by
  obtain ⟨c, rest, spelt, plain, number⟩ := exists_normalize_eq name
  refine ⟨fun c member => (isWordChar_of_mem_normalize member).1, ?_, c, rest, spelt, plain, ?_,
    number⟩
  · intro separator listed inside
    -- every separator has a character that no symbol has
    have known := List.all_eq_true.mp table_separators separator listed
    obtain ⟨mark, part, other⟩ := List.any_eq_true.mp known
    obtain ⟨word, unmarked⟩ := isWordChar_of_mem_normalize (inside.subset part)
    simp [word, unmarked] at other
  · rw [← number]
    have member : c ∈ (normalize name).toList := by simp [spelt]
    obtain ⟨word, unmarked⟩ := isWordChar_of_mem_normalize member
    constructor
    · intro letter numeral
      rw [Text.isLetter_eq_false_of_isNumeral numeral] at letter
      cases letter
    · intro other
      rcases Text.class_of_isWordChar word with letter | digit | numeral | rfl
      · exact letter
      · rw [plain] at digit
        cases digit
      · exact absurd numeral other
      · exact absurd rfl unmarked

/-- Roman numerals are numbers, but no digits. -/
example : (normalize "$Ⅳ part").toList.map isLetter = [false, true, true, true, true] := by
  decide +kernel

end HostBindings.Naming
