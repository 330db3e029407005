import HostBindings.Naming.Normalizer
import HostBindings.Proofs.Text.Characters
import Mathlib.Data.List.Find

/-!
# Names character by character

The words of a name are joined character by character: it matters only whether a word has just
begun. The replacement pass can be taken apart as well, at every place that no pattern reaches
across. So each character of a symbol can be followed back to its place in the name.

## Main definitions

* `Naming.kept`, `Naming.beginsAfter` — the joined words, from left to right
* `Naming.Reaches` — a pattern that begins in one text and ends in the next

## Main results

* `Naming.joinWords_eq_kept`, `Naming.kept_append`
* `Naming.exists_of_kept_eq_cons` — where the first character of the joined words stands
* `Naming.replace_append` — texts that no pattern connects
* `Naming.exists_of_replaceFrom_eq` — where a character comes from that no replacement has
-/

namespace HostBindings.Naming

open Text (isBlank isWordChar)

variable {begins : Bool} {c d : Char} {text more : List Char}

/-! ### Joined words -/

/-- What a character of a word contributes; the first one is put in upper case. -/
def image (begins : Bool) (c : Char) : List Char :=
  (if begins then Text.upper c else [c]).filter isWordChar

/-- The joined words of a text, from left to right, where a word begins or one is continued. -/
def kept (begins : Bool) : List Char → List Char
  | [] => []
  | c :: rest => if isBlank c then kept true rest else image begins c ++ kept false rest

/-- Whether a word begins behind a text. -/
def beginsAfter (begins : Bool) : List Char → Bool
  | [] => begins
  | c :: rest => beginsAfter (isBlank c) rest

theorem kept_append :
    kept begins (text ++ more) = kept begins text ++ kept (beginsAfter begins text) more := by
  induction text generalizing begins with
  | nil => rfl
  | cons c rest ih =>
    rw [List.cons_append, kept, kept, beginsAfter]
    split
    next blank => rw [ih, blank]
    next solid => rw [ih, List.append_assoc, Bool.eq_false_iff.mpr solid]

@[simp] theorem beginsAfter_concat : beginsAfter begins (text ++ [c]) = isBlank c := by
  induction text generalizing begins with
  | nil => rfl
  | cons d rest ih => exact ih

private theorem words_blank (blank : isBlank c = true) :
    Text.words (c :: text) = Text.words text := by
  cases text <;> simp [Text.words, blank]

/-- A character that is not blank begins a word or is put in front of one. -/
private theorem exists_words_solid (text : List Char) (solid : isBlank c = false) :
    ∃ word others, Text.words (c :: text) = (c :: word) :: others ∧
      (word ++ others.flatMap titleWord).filter isWordChar = kept false text ∧
      ((Text.words text).flatMap titleWord).filter isWordChar = kept true text := by
  induction text generalizing c with
  | nil =>
    refine ⟨[], [], ?_, rfl, rfl⟩
    rw [Text.words, if_neg (by simp [solid])]
  | cons d rest ih =>
    rw [Text.words, if_neg (by simp [solid])]
    cases next : isBlank d with
    | true =>
      -- the word ends, and the others are those behind the blank
      obtain ⟨-, -, -, -, goes⟩ := ih solid
      have others : Text.words (d :: rest) = Text.words rest := words_blank next
      refine ⟨[], Text.words (d :: rest), by simp, ?_, ?_⟩
      · rw [List.nil_append, others, goes, kept, if_pos next]
      · rw [others, goes, kept, if_pos next]
    | false =>
      obtain ⟨word, others, split, goes, -⟩ := ih next
      refine ⟨d :: word, others, by simp [split], ?_, ?_⟩
      · rw [kept, if_neg (by simp [next]), ← goes, image, ← List.filter_append]
        rfl
      · rw [kept, if_neg (by simp [next]), ← goes, image, ← List.filter_append, split]
        simp [titleWord]

/-- The joined words can be had character by character. -/
theorem joinWords_eq_kept (text : List Char) : joinWords text = kept true text := by
  obtain ⟨-, -, -, -, same⟩ := exists_words_solid (c := 'x') text (by decide)
  exact same

/-- A character that stands behind what contributes nothing comes first. -/
theorem exists_of_kept_eq_cons {rest : List Char} (found : kept begins text = c :: rest) :
    ∃ before d after more, text = before ++ d :: after ∧ kept begins before = [] ∧
      isBlank d = false ∧ image (beginsAfter begins before) d = c :: more := by
  -- on the text: blanks, and characters without an image, contribute nothing
  induction text generalizing begins with
  | nil => cases found
  | cons d after ih =>
    rw [kept] at found
    cases blank : isBlank d with
    | true =>
      rw [if_pos blank] at found
      obtain ⟨before, e, later, more, rfl, none, solid, first⟩ := ih found
      exact ⟨d :: before, e, later, more, rfl, by rw [kept, if_pos blank, none], solid, by
        rwa [beginsAfter, blank]⟩
    | false =>
      rw [if_neg (by simp [blank])] at found
      cases here : image begins d with
      | cons first others =>
        rw [here] at found
        cases found
        exact ⟨[], d, after, others, rfl, rfl, blank, here⟩
      | nil =>
        rw [here, List.nil_append] at found
        obtain ⟨before, e, later, more, rfl, none, solid, first⟩ := ih found
        refine ⟨d :: before, e, later, more, rfl, ?_, solid, by rwa [beginsAfter, blank]⟩
        rw [kept, if_neg (by simp [blank]), here, none]
        rfl

/-! ### The replacement pass -/

theorem Rule.applies_iff {rule : Rule} :
    rule.applies text = true ↔ rule.pattern ≠ [] ∧ rule.pattern <+: text := by
  simp [Rule.applies]

/-- The pattern of a rule that applies has the character at the start. -/
theorem Rule.mem_pattern {rule : Rule} (applies : rule.applies (c :: text) = true) :
    c ∈ rule.pattern := by
  obtain ⟨begun, behind, same⟩ := Rule.applies_iff.mp applies
  obtain ⟨d, pattern, spelt⟩ := List.exists_cons_of_ne_nil begun
  rw [spelt, List.cons_append] at same
  rw [spelt, (List.cons.inj same).1]
  exact List.mem_cons_self

/-- A rule that applies goes on to apply where the text is longer. -/
theorem Rule.applies_append {rule : Rule} (applies : rule.applies text = true) :
    rule.applies (text ++ more) = true := by
  rw [Rule.applies_iff] at applies ⊢
  exact ⟨applies.1, applies.2.trans (List.prefix_append _ _)⟩

/-- What follows behind a pattern does not matter. -/
theorem Rule.applies_of_append {rule : Rule} (fits : rule.pattern.length ≤ text.length)
    (applies : rule.applies (text ++ more) = true) : rule.applies text = true := by
  rw [Rule.applies_iff] at applies ⊢
  exact ⟨applies.1, List.prefix_of_prefix_length_le applies.2 (List.prefix_append _ _) fits⟩

variable {rules : List Rule} {covered : Nat}

/-- A character stays where no rule applies. -/
theorem replace_cons_of_none (none : rules.find? (·.applies (c :: text)) = none) :
    replace rules (c :: text) = c :: replace rules text := by
  rw [replace, replaceFrom, none]
  rfl

/-- Where a rule applies its replacement takes the place of the pattern. -/
theorem replace_cons_of_some {rule : Rule}
    (applied : rules.find? (·.applies (c :: text)) = some rule) :
    replace rules (c :: text) =
      rule.replacement ++ replaceFrom rules (rule.pattern.length - 1) text := by
  rw [replace, replaceFrom, applied]

/-- A pattern that applies within the first text and ends in the second one. -/
def Reaches (rules : List Rule) (text more : List Char) : Prop :=
  ∃ rule ∈ rules, ∃ before after, text = before ++ after ∧ after ≠ [] ∧
    rule.applies (after ++ more) = true ∧ after.length < rule.pattern.length

theorem Reaches.of_cons (reaches : Reaches rules text more) : Reaches rules (c :: text) more := by
  obtain ⟨rule, listed, before, after, rfl, some, applies, beyond⟩ := reaches
  exact ⟨rule, listed, c :: before, after, rfl, some, applies, beyond⟩

/-- The same in terms of the place at which the pattern begins. -/
theorem reaches_iff : Reaches rules text more ↔ ∃ rule ∈ rules, ∃ place < text.length,
    rule.applies ((text ++ more).drop place) = true ∧
      text.length < place + rule.pattern.length := by
  constructor
  · rintro ⟨rule, listed, before, after, rfl, begun, applies, beyond⟩
    have inside : 0 < after.length := List.length_pos_iff.mpr begun
    refine ⟨rule, listed, before.length, ?_, ?_, ?_⟩
    · rw [List.length_append]
      omega
    · rwa [List.append_assoc, List.drop_left]
    · rw [List.length_append]
      omega
  · rintro ⟨rule, listed, place, inside, applies, beyond⟩
    refine ⟨rule, listed, text.take place, text.drop place, ?_, ?_, ?_, ?_⟩
    · exact (List.take_append_drop place text).symm
    · rw [← List.length_pos_iff, List.length_drop]
      omega
    · rwa [List.drop_append_of_le_length (Nat.le_of_lt inside)] at applies
    · rw [List.length_drop]
      omega

instance : Decidable (Reaches rules text more) :=
  decidable_of_iff _ reaches_iff.symm

/-- A pattern that reaches a character has it, and another one before it. -/
theorem Reaches.exists_mem (reaches : Reaches rules text (c :: more)) :
    ∃ rule ∈ rules, c ∈ rule.pattern ∧ 1 < rule.pattern.length := by
  obtain ⟨rule, listed, before, after, rfl, begun, applies, beyond⟩ := reaches
  have inside : 0 < after.length := List.length_pos_iff.mpr begun
  refine ⟨rule, listed, ?_, by omega⟩
  obtain ⟨rest, same⟩ := (Rule.applies_iff.mp applies).2
  have here : (rule.pattern ++ rest)[after.length]? = some c := by
    rw [same, List.getElem?_append_right (Nat.le_refl _), Nat.sub_self]
    rfl
  rw [List.getElem?_append_left beyond] at here
  exact List.mem_of_getElem? here

/-- No pattern reaches a character that it does not have. -/
theorem not_reaches_of_not_mem (unused : ∀ rule ∈ rules, c ∉ rule.pattern) :
    ¬ Reaches rules text (c :: more) := by
  intro reaches
  obtain ⟨rule, listed, inside, -⟩ := reaches.exists_mem
  exact unused rule listed inside

/-- Where no pattern reaches across, the parts of a text can be replaced apart. -/
theorem replaceFrom_append (inside : covered ≤ text.length) (apart : ¬ Reaches rules text more) :
    replaceFrom rules covered (text ++ more) =
      replaceFrom rules covered text ++ replace rules more := by
  induction text generalizing covered with
  | nil =>
    rw [Nat.le_zero.mp inside]
    rfl
  | cons c rest ih =>
    have later : ¬ Reaches rules rest more := fun reaches => apart reaches.of_cons
    cases covered with
    | succ left =>
      exact ih (Nat.le_of_succ_le_succ inside) later
    | zero =>
      -- a rule whose pattern ended beyond the first text would reach across
      have fits {rule : Rule} (listed : rule ∈ rules)
          (applies : rule.applies (c :: rest ++ more) = true) :
          rule.pattern.length ≤ (c :: rest).length := by
        by_contra beyond
        exact apart ⟨rule, listed, [], c :: rest, rfl, nofun, applies, Nat.lt_of_not_le beyond⟩
      have same : rules.find? (·.applies (c :: (rest ++ more))) =
          rules.find? (·.applies (c :: rest)) := by
        refine List.find?_congr fun rule listed => Bool.eq_iff_iff.mpr ⟨fun applies => ?_, ?_⟩
        · exact Rule.applies_of_append (fits listed applies) applies
        · exact Rule.applies_append
      change replace rules (c :: (rest ++ more)) = replace rules (c :: rest) ++ replace rules more
      cases found : rules.find? (·.applies (c :: rest)) with
      | none =>
        rw [replace_cons_of_none found, replace_cons_of_none (same.trans found)]
        exact congrArg (c :: ·) (ih (Nat.zero_le _) later)
      | some rule =>
        have applies := List.find?_some found
        have short := fits (List.mem_of_find?_eq_some found) (Rule.applies_append applies)
        rw [replace_cons_of_some found, replace_cons_of_some (same.trans found),
          ih (Nat.sub_le_of_le_add short) later, List.append_assoc]

theorem replace_append (apart : ¬ Reaches rules text more) :
    replace rules (text ++ more) = replace rules text ++ replace rules more :=
  replaceFrom_append (Nat.zero_le _) apart

/-- Where no rule applies, none applies to the characters that stand first. -/
theorem find?_eq_none_of_append (idle : rules.find? (·.applies (text ++ more)) = none) :
    rules.find? (·.applies text) = none :=
  List.find?_eq_none.mpr fun rule listed applies =>
    List.find?_eq_none.mp idle rule listed (Rule.applies_append applies)

/-- The rule that applies is the same where the rest is missing, if its pattern is all there. -/
theorem find?_eq_some_of_append {rule : Rule}
    (found : rules.find? (·.applies (text ++ more)) = some rule)
    (fits : rule.pattern.length ≤ text.length) : rules.find? (·.applies text) = some rule := by
  obtain ⟨applies, others, later, listed, idle⟩ := List.find?_eq_some_iff_append.mp found
  refine List.find?_eq_some_iff_append.mpr
    ⟨Rule.applies_of_append fits applies, others, later, listed, fun other member => ?_⟩
  by_contra applies
  have whole : other.applies (text ++ more) = true := Rule.applies_append (by simpa using applies)
  simpa [whole] using idle other member

/-- A replacement ends before a character that it does not have. -/
theorem exists_of_replacement_append {replacement made before after : List Char}
    (own : c ∉ replacement) (found : replacement ++ made = before ++ c :: after) :
    ∃ inner, before = replacement ++ inner ∧ made = inner ++ c :: after := by
  rcases List.append_eq_append_iff.mp found with ⟨inner, split, remains⟩ | ⟨inner, split, remains⟩
  · exact ⟨inner, split, remains⟩
  · cases inner with
    | nil => exact ⟨[], by simpa using split.symm, remains.symm⟩
    | cons d inner =>
      obtain ⟨rfl, -⟩ := List.cons.inj remains
      exact absurd (by simp [split]) own

/-- A character that no replacement has comes from a place of the name where no rule applies, and
what stands before it there becomes what stands before it. -/
theorem exists_of_replaceFrom_eq {before after : List Char}
    (own : ∀ rule ∈ rules, c ∉ rule.replacement)
    (found : replaceFrom rules covered text = before ++ c :: after) :
    ∃ first rest, text = first ++ c :: rest ∧ covered ≤ first.length ∧
      replaceFrom rules covered first = before ∧
      ∀ rule ∈ rules, rule.applies (c :: rest) = false := by
  induction text generalizing covered before with
  | nil => simp [replaceFrom] at found
  | cons d text ih =>
    cases covered with
    | succ left =>
      obtain ⟨first, rest, rfl, inside, made, unruled⟩ := ih found
      exact ⟨d :: first, rest, rfl, Nat.succ_le_succ inside, made, unruled⟩
    | zero =>
      change replace rules (d :: text) = before ++ c :: after at found
      cases applied : rules.find? (·.applies (d :: text)) with
      | none =>
        rw [replace_cons_of_none applied] at found
        cases before with
        | nil =>
          cases found
          exact ⟨[], text, rfl, Nat.zero_le _, rfl, by simpa using applied⟩
        | cons e before =>
          obtain ⟨rfl, remains⟩ := List.cons.inj found
          obtain ⟨first, rest, rfl, -, made, unruled⟩ := ih remains
          refine ⟨d :: first, rest, rfl, Nat.zero_le _, ?_, unruled⟩
          have still : rules.find? (·.applies (d :: first)) = none :=
            find?_eq_none_of_append applied
          exact (replace_cons_of_none still).trans (congrArg (d :: ·) made)
      | some rule =>
        rw [replace_cons_of_some applied] at found
        -- the replacement ends before the character, so the pattern ends before its place
        obtain ⟨inner, rfl, remains⟩ :=
          exists_of_replacement_append (own rule (List.mem_of_find?_eq_some applied)) found
        obtain ⟨first, rest, rfl, inside, made, unruled⟩ := ih remains
        refine ⟨d :: first, rest, rfl, Nat.zero_le _, ?_, unruled⟩
        have still : rules.find? (·.applies (d :: first)) = some rule :=
          find?_eq_some_of_append applied (Nat.le_add_of_sub_le inside)
        exact (replace_cons_of_some still).trans (congrArg (rule.replacement ++ ·) made)

/-- So no pattern of a single character is left. -/
theorem not_mem_replace {rule : Rule} (listed : rule ∈ rules) (single : rule.pattern = [c])
    (own : ∀ rule ∈ rules, c ∉ rule.replacement) : c ∉ replace rules text := by
  intro left
  obtain ⟨before, after, found⟩ := List.append_of_mem left
  obtain ⟨first, rest, -, -, -, unruled⟩ := exists_of_replaceFrom_eq own found
  have applies : rule.applies (c :: rest) = true := by
    rw [Rule.applies_iff, single]
    exact ⟨nofun, rest, rfl⟩
  rw [unruled rule listed] at applies
  cases applies

/-! ### The rules of the tables -/

namespace Normalizer

variable {normalizer : Normalizer} {piece spelling : String}

theorem mem_rules_of_separator (listed : piece ∈ normalizer.separators) :
    ⟨piece.toList, [' ']⟩ ∈ normalizer.rules :=
  List.mem_append_left _ (List.mem_map.mpr ⟨piece, listed, rfl⟩)

theorem mem_rules_of_correction (listed : (piece, spelling) ∈ normalizer.corrections) :
    ⟨piece.toList, spelling.toList⟩ ∈ normalizer.rules :=
  List.mem_append_right _ (List.mem_map.mpr ⟨(piece, spelling), listed, rfl⟩)

end Normalizer

/-! ### Symbols under the default tables -/

variable {name : String} {rest : List Char}

theorem toList_normalize_nil (joined : Normalizer.core {} name.toList = []) :
    (normalize name).toList = ['O', 'b', 'j'] := by
  rw [normalize, Normalizer.symbol, joined]
  rfl

theorem toList_normalize_digit (joined : Normalizer.core {} name.toList = c :: rest)
    (digit : Text.isDigit c = true) : (normalize name).toList = 'X' :: c :: rest := by
  rw [normalize, Normalizer.symbol, joined, Normalizer.finish, if_pos digit]
  simp

theorem toList_normalize_cons (joined : Normalizer.core {} name.toList = c :: rest)
    (plain : Text.isDigit c = false) : (normalize name).toList = c :: rest := by
  rw [normalize, Normalizer.symbol, joined, Normalizer.finish, if_neg (by simp [plain]),
    String.toList_ofList]

end HostBindings.Naming
