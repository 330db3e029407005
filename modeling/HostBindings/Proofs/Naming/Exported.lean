import HostBindings.Naming.Package
import HostBindings.Naming.Scheme
import HostBindings.Proofs.Naming.Identifiers

/-!
# Exported symbols

A symbol is exported if it begins with an upper-case letter, and then it is no reserved word. The
words of a name are put in title case before characters are dropped that no identifier has. So the
symbol of a name in ASCII is exported unless the first letter or digit of the name is a lower-case
letter right behind a character that is dropped, such as a dollar sign.

## Main definitions

* `Naming.Exported` — symbols that begin with an upper-case letter
* `Naming.BeginsInside` — names whose first letter or digit does not begin a word

## Main results

* `Naming.exists_core_eq` — the first of the joined words' characters
* `Naming.exported_symbols` — the symbols of the default scheme
-/

namespace HostBindings.Naming

open Text (isBlank isDigit isWordChar)

variable {begins : Bool} {c : Char} {lead text : List Char}

/-! ### ASCII characters -/

/-- How a character in ASCII is classed, and what upper case makes of it. -/
private theorem table_ascii (small : c.toNat < 128) :
    (isWordChar c = (c.isAlphanum || c == '_') ∧ isDigit c = c.isDigit ∧
        (c.isAlphanum = true → c.isLower = !(c.isUpper || c.isDigit))) ∧
      [((Text.Shift.find? [⟨97, 122, 1, -32⟩] c.toNat).map Char.ofNat).getD c] = [c.toUpper] ∧
      (c.toUpper.toNat < 128 ∧ c.toUpper.isAlphanum = c.isAlphanum ∧ c.toUpper.isLower = false ∧
        (c.isAlphanum = false → c.toUpper = c)) := by
  refine Text.of_toNat_lt small ?_
  decide +kernel

theorem isWordChar_of_ascii (small : c.toNat < 128) :
    isWordChar c = (c.isAlphanum || c == '_') :=
  (table_ascii small).1.1

theorem isDigit_of_ascii (small : c.toNat < 128) : isDigit c = c.isDigit :=
  (table_ascii small).1.2.1

/-- A letter or digit is an upper-case letter, a digit or a lower-case letter. -/
private theorem isLower_eq_of_ascii (small : c.toNat < 128) :
    c.isAlphanum = true → c.isLower = !(c.isUpper || c.isDigit) :=
  (table_ascii small).1.2.2

/-- Upper case makes a letter or digit of a letter or digit, and no lower-case letter. -/
private theorem toUpper_of_ascii (small : c.toNat < 128) :
    c.toUpper.toNat < 128 ∧ c.toUpper.isAlphanum = c.isAlphanum ∧ c.toUpper.isLower = false ∧
      (c.isAlphanum = false → c.toUpper = c) :=
  (table_ascii small).2.2

/-- Only the first run of the mapping to upper case has ASCII characters. -/
private theorem table_upper :
    (∀ code ∈ Text.upperSequences.map (·.1), 128 ≤ code) ∧
      ∀ run ∈ Text.upperShifts.tail, 128 ≤ run.first := by
  decide +kernel

theorem upper_of_ascii (small : c.toNat < 128) : Text.upper c = [c.toUpper] := by
  have single : Text.upperSequences.lookup c.toNat = none := by
    refine lookup_eq_none_of_not_mem fun listed => ?_
    exact absurd (table_upper.1 _ listed) (by omega)
  have idle : Text.upperShifts.tail.find? (·.covers c.toNat) = none := by
    refine List.find?_eq_none.mpr fun run listed covered => ?_
    have := table_upper.2 run listed
    simp only [Text.Shift.covers, Bool.and_eq_true, decide_eq_true_eq] at covered
    omega
  have runs : Text.upperShifts = ⟨97, 122, 1, -32⟩ :: Text.upperShifts.tail := rfl
  have shifted : Text.Shift.find? Text.upperShifts c.toNat =
      Text.Shift.find? [⟨97, 122, 1, -32⟩] c.toNat := by
    rw [runs, Text.Shift.find?, Text.Shift.find?, List.find?_cons, List.find?_cons, idle]
    rfl
  rw [Text.upper, single, shifted]
  exact (table_ascii small).2.1

private theorem isAlphanum_of_isLower (lower : c.isLower = true) : c.isAlphanum = true := by
  show (c.isUpper || c.isLower || c.isDigit) = true
  rw [lower, Bool.or_true, Bool.true_or]

/-! ### Characters in front of the first letter or digit -/

/-- What becomes of a character that is no part of a correction: a separator becomes a space. -/
def blankOut (c : Char) : Char :=
  if String.singleton c ∈ defaultSeparators then ' ' else c

private theorem table_splitRules :
    (Normalizer.rules {}).all (fun rule =>
      rule.pattern.any (fun c => rule == ⟨[c], [' ']⟩ && !c.isAlphanum &&
        defaultSeparators.contains (String.singleton c)) ||
      (rule.pattern == ['u', 'r', 'l'] || rule.pattern == ['U', 'r', 'l']) &&
        rule.replacement == ['U', 'R', 'L']) = true := by
  decide +kernel

/-- A rule replaces a separator by a space, or it corrects the spelling of an acronym. -/
private theorem cases_of_mem_rules {rule : Rule} (listed : rule ∈ Normalizer.rules {}) :
    (∃ c, rule = ⟨[c], [' ']⟩ ∧ c.isAlphanum = false ∧ String.singleton c ∈ defaultSeparators) ∨
      (rule.pattern = ['u', 'r', 'l'] ∨ rule.pattern = ['U', 'r', 'l']) ∧
        rule.replacement = ['U', 'R', 'L'] := by
  have known := List.all_eq_true.mp table_splitRules rule listed
  simp only [Bool.or_eq_true, Bool.and_eq_true, List.any_eq_true, beq_iff_eq, Bool.not_eq_true',
    List.contains_iff_mem] at known
  rcases known with ⟨c, -, ⟨same, bare⟩, separates⟩ | correction
  · exact .inl ⟨c, same, bare, separates⟩
  · exact .inr correction

/-- A rule applies at a character in front of letters and digits if that is its separator. -/
private theorem eq_of_applies_bare {rule : Rule} (listed : rule ∈ Normalizer.rules {})
    (applies : rule.applies (c :: text) = true) (bare : c.isAlphanum = false) :
    rule = ⟨[c], [' ']⟩ ∧ String.singleton c ∈ defaultSeparators := by
  obtain ⟨-, more, same⟩ := Rule.applies_iff.mp applies
  rcases cases_of_mem_rules listed with ⟨d, rfl, -, separates⟩ | ⟨url | Url, -⟩
  · obtain ⟨rfl, -⟩ := List.cons.inj same
    exact ⟨rfl, separates⟩
  -- a correction begins with a letter
  · rw [url] at same
    obtain ⟨rfl, -⟩ := List.cons.inj same
    cases bare
  · rw [Url] at same
    obtain ⟨rfl, -⟩ := List.cons.inj same
    cases bare

/-- In front of letters and digits only separators are replaced. -/
theorem replace_cons_of_bare (bare : c.isAlphanum = false) :
    replace (Normalizer.rules {}) (c :: text) =
      blankOut c :: replace (Normalizer.rules {}) text := by
  cases applied : (Normalizer.rules {}).find? (·.applies (c :: text)) with
  | none =>
    have other : String.singleton c ∉ defaultSeparators := by
      intro separates
      have listed : ⟨(String.singleton c).toList, [' ']⟩ ∈ Normalizer.rules {} :=
        Normalizer.mem_rules_of_separator separates
      rw [String.toList_singleton] at listed
      exact List.find?_eq_none.mp applied _ listed (Rule.applies_iff.mpr ⟨nofun, text, rfl⟩)
    rw [replace_cons_of_none applied, blankOut, if_neg other]
  | some rule =>
    have applies := List.find?_some applied
    obtain ⟨rfl, separates⟩ :=
      eq_of_applies_bare (List.mem_of_find?_eq_some applied) applies bare
    rw [replace_cons_of_some applied, blankOut, if_pos separates]
    rfl

theorem replace_append_of_bare (bare : ∀ c ∈ lead, c.isAlphanum = false) :
    replace (Normalizer.rules {}) (lead ++ text) =
      lead.map blankOut ++ replace (Normalizer.rules {}) text := by
  induction lead with
  | nil => rfl
  | cons c rest ih =>
    rw [List.cons_append, replace_cons_of_bare (bare c List.mem_cons_self),
      ih fun d member => bare d (List.mem_cons_of_mem c member)]
    rfl

/-- Nothing of them is left over. -/
theorem kept_blankOut (ascii : ∀ c ∈ lead, c.toNat < 128)
    (bare : ∀ c ∈ lead, c.isAlphanum = false) : kept begins (lead.map blankOut) = [] := by
  induction lead generalizing begins with
  | nil => rfl
  | cons c rest ih =>
    have later {begins : Bool} : kept begins (rest.map blankOut) = [] :=
      ih (fun d member => ascii d (List.mem_cons_of_mem c member))
        fun d member => bare d (List.mem_cons_of_mem c member)
    have small := ascii c List.mem_cons_self
    have plain := bare c List.mem_cons_self
    rw [List.map_cons, kept, later, later]
    split
    · rfl
    next solid =>
      -- a character that stays is neither a letter nor a digit nor the underscore
      have other : String.singleton c ∉ defaultSeparators := by
        intro separates
        rw [blankOut, if_pos separates] at solid
        exact solid (by decide)
      have unmarked : c ≠ '_' := by
        rintro rfl
        exact other (by decide)
      have dropped : isWordChar c = false := by
        rw [isWordChar_of_ascii small, plain]
        simpa using unmarked
      rw [blankOut, if_neg other, image, upper_of_ascii small, (toUpper_of_ascii small).2.2.2 plain]
      simp [dropped]

/-! ### The first letter or digit -/

/-- The first letter or digit stays as it is or becomes the first one of an acronym. -/
private theorem exists_replace_cons (text : List Char) (part : c.isAlphanum = true) :
    ∃ first rest, replace (Normalizer.rules {}) (c :: text) = first :: rest ∧
      (first = c ∧ ¬ "url".toList <+: c :: text ∨
        first = 'U' ∧ ("url".toList <+: c :: text ∨ c = 'U')) := by
  -- the rule that applies first is a separator, or one of the two spellings of the acronym
  cases applied : (Normalizer.rules {}).find? (·.applies (c :: text)) with
  | none =>
    refine ⟨c, _, replace_cons_of_none applied, .inl ⟨rfl, fun acronym => ?_⟩⟩
    have listed : ⟨"url".toList, "URL".toList⟩ ∈ Normalizer.rules {} :=
      Normalizer.mem_rules_of_correction (by decide)
    exact List.find?_eq_none.mp applied _ listed (Rule.applies_iff.mpr ⟨by decide, acronym⟩)
  | some rule =>
    have applies := List.find?_some applied
    obtain ⟨-, inside⟩ := Rule.applies_iff.mp applies
    rcases cases_of_mem_rules (List.mem_of_find?_eq_some applied) with
      ⟨d, rfl, bare, -⟩ | ⟨piece, spelling⟩
    · obtain ⟨more, same⟩ := inside
      obtain ⟨rfl, -⟩ := List.cons.inj same
      rw [bare] at part
      cases part
    · rw [replace_cons_of_some applied, spelling]
      refine ⟨'U', _, rfl, .inr ⟨rfl, ?_⟩⟩
      rcases piece with url | Url
      · rw [url] at inside
        exact .inl inside
      · obtain ⟨more, same⟩ := inside
        rw [Url] at same
        obtain ⟨rfl, -⟩ := List.cons.inj same
        exact .inr rfl

/-- Behind characters that are neither letters nor digits a word begins unless the last one of them
stays. -/
private theorem beginsAfter_blankOut :
    beginsAfter true (lead.map blankOut) = false ↔
      ∃ before mark, lead = before ++ [mark] ∧ isBlank mark = false ∧
        String.singleton mark ∉ defaultSeparators := by
  rcases lead.eq_nil_or_concat with rfl | ⟨before, mark, rfl⟩
  · simp [beginsAfter]
  · rw [List.concat_eq_append, List.map_append, List.map_singleton, beginsAfter_concat, blankOut]
    constructor
    · intro solid
      split at solid
      · cases solid
      next other => exact ⟨before, mark, rfl, solid, other⟩
    · rintro ⟨first, last, same, solid, other⟩
      obtain ⟨-, last⟩ := List.append_inj' same rfl
      cases last
      rwa [if_neg other]

/-- The joined words of a name begin with what its first letter or digit becomes, which is in lower
case only if it does not begin a word. -/
theorem exists_core_eq (ascii : ∀ d ∈ lead ++ c :: text, d.toNat < 128)
    (bare : ∀ d ∈ lead, d.isAlphanum = false) (part : c.isAlphanum = true) :
    ∃ first rest, Normalizer.core {} (lead ++ c :: text) = first :: rest ∧
      first.toNat < 128 ∧ first.isAlphanum = true ∧
      (first.isLower = true ↔ beginsAfter true (lead.map blankOut) = false ∧ c.isLower = true ∧
        ¬ "url".toList <+: c :: text) := by
  obtain ⟨here, rest, made, kind⟩ := exists_replace_cons text part
  have known : here.toNat < 128 ∧ here.isAlphanum = true := by
    rcases kind with ⟨rfl, -⟩ | ⟨rfl, -⟩
    · exact ⟨ascii here (by simp), part⟩
    · exact ⟨by decide, by decide⟩
  -- the acronym begins with a capital letter, so the letter stays lower only without it
  have lower : here.isLower = true ↔ c.isLower = true ∧ ¬ "url".toList <+: c :: text := by
    rcases kind with ⟨rfl, other⟩ | ⟨rfl, acronym | rfl⟩
    · exact (and_iff_left other).symm
    · exact iff_of_false (by decide) fun there => there.2 acronym
    · exact iff_of_false (by decide) fun there => absurd there.1 (by decide)
  have word {d : Char} (small : d.toNat < 128) (part : d.isAlphanum = true) :
      isWordChar d = true := by
    rw [isWordChar_of_ascii small, part]
    rfl
  have solid : isBlank here = false := Text.not_isBlank_of_isWordChar (word known.1 known.2)
  obtain ⟨bound, alphanum, upper, -⟩ := toUpper_of_ascii known.1
  rw [Normalizer.core, joinWords_eq_kept, replace_append_of_bare bare, made, kept_append,
    kept_blankOut (fun d member => ascii d (List.mem_append_left _ member)) bare, List.nil_append,
    kept, if_neg (by simp [solid]), image]
  cases begins : beginsAfter true (lead.map blankOut) with
  | true =>
    rw [if_pos rfl, upper_of_ascii known.1,
      List.filter_cons_of_pos (word bound (alphanum.trans known.2))]
    exact ⟨here.toUpper, _, rfl, bound, alphanum.trans known.2,
      iff_of_false (by simp [upper]) fun there => absurd there.1 (by decide)⟩
  | false =>
    rw [if_neg Bool.false_ne_true, List.filter_cons_of_pos (word known.1 known.2)]
    exact ⟨here, _, rfl, known.1, known.2, lower.trans (and_iff_right rfl).symm⟩

/-- A symbol that begins with an upper-case letter. -/
def Exported (symbol : String) : Prop :=
  ∃ c rest, symbol.toList = c :: rest ∧ c.isUpper = true

/-- A name whose first letter or digit is a lower-case letter that begins neither a word nor an
acronym: what stands before it is neither a blank nor a separator. -/
def BeginsInside (name : List Char) : Prop :=
  ∃ before mark c rest, name = before ++ mark :: c :: rest ∧
    (∀ d ∈ before ++ [mark], d.isAlphanum = false) ∧ isBlank mark = false ∧
    String.singleton mark ∉ defaultSeparators ∧ c.isLower = true ∧ ¬ "url".toList <+: c :: rest

/-- A name is taken apart at its first letter or digit in one way. -/
private theorem takeWhile_bare (text : List Char) (bare : ∀ d ∈ lead, d.isAlphanum = false)
    (part : c.isAlphanum = true) :
    (lead ++ c :: text).takeWhile (fun d => !d.isAlphanum) = lead ∧
      (lead ++ c :: text).dropWhile (fun d => !d.isAlphanum) = c :: text := by
  have all : ∀ d ∈ lead, (!d.isAlphanum) = true := fun d member => by rw [bare d member]; rfl
  rw [List.takeWhile_append_of_pos all, List.dropWhile_append_of_pos all]
  simp [part]

theorem beginsInside_iff (bare : ∀ d ∈ lead, d.isAlphanum = false) (part : c.isAlphanum = true) :
    BeginsInside (lead ++ c :: text) ↔ beginsAfter true (lead.map blankOut) = false ∧
      c.isLower = true ∧ ¬ "url".toList <+: c :: text := by
  rw [beginsAfter_blankOut]
  constructor
  · rintro ⟨before, mark, d, rest, same, plain, solid, other, small, acronym⟩
    have letter : d.isAlphanum = true := isAlphanum_of_isLower small
    have split := takeWhile_bare rest plain letter
    have whole := takeWhile_bare text bare part
    rw [same, List.append_cons before mark (d :: rest), split.1, split.2] at whole
    obtain ⟨rfl, whole⟩ := whole
    cases whole
    exact ⟨⟨before, mark, rfl, solid, other⟩, small, acronym⟩
  · rintro ⟨⟨before, mark, rfl, solid, other⟩, small, acronym⟩
    exact ⟨before, mark, c, text, by simp, bare, solid, other, small, acronym⟩

/-- The symbol of a name in ASCII is exported unless the name begins inside of a word. -/
theorem exported_normalize_iff {name : String} (ascii : ∀ c ∈ name.toList, c.toNat < 128) :
    Exported (normalize name) ↔ ¬ BeginsInside name.toList := by
  obtain ⟨lead, tail, split, bare, part⟩ : ∃ lead tail, name.toList = lead ++ tail ∧
      (∀ d ∈ lead, d.isAlphanum = false) ∧ ∀ d ∈ tail.head?, d.isAlphanum = true := by
    refine ⟨_, _, (List.takeWhile_append_dropWhile (p := fun d => !d.isAlphanum)).symm, ?_, ?_⟩
    · intro d member
      simpa using List.mem_takeWhile_imp member
    · intro d first
      have stops := List.head?_dropWhile_not (fun d => !d.isAlphanum) name.toList
      rw [first] at stops
      simpa using stops
  rw [split] at ascii
  cases tail with
  | nil =>
    have joined : Normalizer.core {} name.toList = [] := by
      rw [Normalizer.core, joinWords_eq_kept, split, replace_append_of_bare bare, kept_append,
        kept_blankOut (fun d member => ascii d (List.mem_append_left _ member)) bare]
      rfl
    refine iff_of_true ⟨'O', _, toList_normalize_nil joined, by decide⟩ ?_
    -- the name has no letter at all
    rintro ⟨before, mark, c, rest, same, -, -, -, small, -⟩
    have plain := bare c (by rw [← List.append_nil lead, ← split, same]; simp)
    rw [isAlphanum_of_isLower small] at plain
    cases plain
  | cons c text =>
    have letter := part c rfl
    obtain ⟨first, rest, joined, small, alphanum, lower⟩ := exists_core_eq ascii bare letter
    rw [← split] at joined
    rw [split, beginsInside_iff bare letter, ← lower, isLower_eq_of_ascii small alphanum]
    cases digit : isDigit first with
    | true =>
      refine iff_of_true ⟨'X', _, toList_normalize_digit joined digit, by decide⟩ ?_
      rw [isDigit_of_ascii small] at digit
      simp [digit]
    | false =>
      rw [Exported, toList_normalize_cons joined digit]
      rw [isDigit_of_ascii small] at digit
      simp [digit]

/-- No reserved word begins with an upper-case letter. -/
private theorem table_reservedWords :
    reservedWords.all (fun word => !word.toList.head?.any Char.isUpper) = true := by
  decide +kernel

/-- The symbols that the default scheme makes of names in ASCII: a symbol is exported, and then no
reserved word, unless the first letter or digit of the name begins neither a word nor an acronym. -/
theorem exported_symbols (name : String) (ascii : ∀ c ∈ name.toList, c.toNat < 128) :
    ∃ symbol,
      (Scheme.ofTables (.ofCorrections [] (.string defaultModuleSuffix))).symbol name =
        .ok (.string symbol) ∧
      (Exported symbol ↔ ¬ BeginsInside name.toList) ∧
      (Exported symbol → symbol ∉ reservedWords) := by
  refine ⟨normalize name, rfl, exported_normalize_iff ascii, ?_⟩
  rintro ⟨c, rest, spelt, upper⟩ reserved
  have known := List.all_eq_true.mp table_reservedWords _ reserved
  simp [spelt, upper] at known

/-- The symbol of a name that begins a word, and so is exported. -/
theorem exported_symbols_openDevTools :
    (∀ c ∈ "open-dev tools".toList, c.toNat < 128) ∧ ¬ BeginsInside "open-dev tools".toList ∧
      Exported "OpenDevTools" ∧ "OpenDevTools" ∉ reservedWords := by
  have ascii : ∀ c ∈ "open-dev tools".toList, c.toNat < 128 := by simp
  obtain ⟨symbol, found, exported, unreserved⟩ := exported_symbols "open-dev tools" ascii
  obtain rfl : "OpenDevTools" = symbol := by
    have made : normalize "open-dev tools" = "OpenDevTools" := by decide +kernel
    exact made.symm.trans (Json.string.inj (Except.ok.inj found))
  have upper : Exported "OpenDevTools" := ⟨'O', _, rfl, by decide⟩
  exact ⟨ascii, exported.mp upper, upper, unreserved upper⟩

/-- A lower-case letter behind a dollar sign stays as it is. -/
example : normalize "$type" = "type" := by decide +kernel

end HostBindings.Naming
