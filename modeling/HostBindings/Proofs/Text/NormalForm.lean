import HostBindings.Proofs.Text.Lines
import Mathlib.Data.List.Chain

/-!
# The normal form of a text

Bringing a text into its normal form is done with one pass: a second one changes nothing. What comes
out has no blanks at the ends of lines and no two blank lines in a row, and it is the text as far as
its other lines go: these are all there, in their order and trimmed, and a blank line stands between
two of them where one or more stood between them in the text.

## Main definitions

* `Text.isBlankLine` — lines of which trimming leaves nothing
* `Text.Separated` — two items with a blank one between them

## Main results

* `Text.collapse_collapse`, `Text.isChain_collapse` — runs of empty lines
* `Text.collapse_append_cons`, `Text.exists_of_collapse_eq` — the parts around a line
* `Text.separated_collapse` — empty lines between others
* `Text.isChain_tidyLines`, `Text.filter_tidyLines`, `Text.separated_tidyLines` — the lines of a
  normal form
* `Text.tidy_normal_form`
-/

namespace HostBindings.Text

variable {afterEmpty : Bool} {line : List Char} {given before after : List (List Char)}

/-! ### Trimmed lines -/

/-- Whether a line has nothing but blanks. -/
def isBlankLine (line : List Char) : Bool := line.all isBlank

@[simp] theorem isEmpty_trimRight (line : List Char) :
    (trimRight line).isEmpty = isBlankLine line := by
  rw [trimRight, dropTail_eq_rdropWhile, isBlankLine, Bool.eq_iff_iff, List.isEmpty_iff,
    List.rdropWhile_eq_nil_iff, List.all_eq_true]

@[simp] theorem trimRight_trimRight (line : List Char) :
    trimRight (trimRight line) = trimRight line := by
  simp only [trimRight, dropTail_eq_rdropWhile]
  exact List.rdropWhile_idempotent isBlank line

@[simp] theorem isBlankLine_trimRight (line : List Char) :
    isBlankLine (trimRight line) = isBlankLine line := by
  rw [← isEmpty_trimRight, trimRight_trimRight, isEmpty_trimRight]

/-- A trimmed line does not end with a blank. -/
theorem isBlank_of_getLast?_trimRight {c : Char} (ends : (trimRight line).getLast? = some c) :
    isBlank c = false := by
  rw [trimRight, dropTail_eq_rdropWhile] at ends
  by_cases none : line.rdropWhile isBlank = []
  · rw [none] at ends
    cases ends
  · rw [List.getLast?_eq_some_getLast none, Option.some.injEq] at ends
    rw [← ends]
    simpa using List.rdropWhile_last_not isBlank line none

/-! ### Runs of empty lines -/

theorem collapse_collapse (afterEmpty : Bool) (lines : List (List Char)) :
    collapse afterEmpty (collapse afterEmpty lines) = collapse afterEmpty lines := by
  induction lines generalizing afterEmpty with
  | nil => rfl
  | cons line rest ih =>
    cases line with
    | nil => cases afterEmpty <;> simp [ih]
    | cons c line => simp [ih]

/-- Behind an empty line no other one is left. -/
theorem head?_collapse (lines : List (List Char)) : (collapse true lines).head? ≠ some [] := by
  induction lines with
  | nil => exact nofun
  | cons line rest ih =>
    cases line with
    | nil => exact ih
    | cons c line => simp

theorem isChain_collapse (afterEmpty : Bool) (lines : List (List Char)) :
    (collapse afterEmpty lines).IsChain fun line next => line ≠ [] ∨ next ≠ [] := by
  induction lines generalizing afterEmpty with
  | nil => exact .nil
  | cons line rest ih =>
    cases line with
    | nil =>
      cases afterEmpty with
      | true => exact ih true
      | false =>
        refine (ih true).cons fun next first => .inr ?_
        rintro rfl
        exact head?_collapse rest first
    | cons c line => exact (ih false).cons fun _ _ => .inl (List.cons_ne_nil c line)

/-- Around a line that is not empty, each part is gone through for itself. -/
theorem collapse_append_cons (filled : line.isEmpty = false) :
    collapse afterEmpty (before ++ line :: after) =
      collapse afterEmpty before ++ line :: collapse false after := by
  induction before generalizing afterEmpty with
  | nil =>
    cases line with
    | nil => cases filled
    | cons c line => rfl
  | cons first rest ih =>
    cases first with
    | nil => cases afterEmpty <;> simp [ih]
    | cons c first => simp [ih]

/-- A line that is left and not empty comes from the lines, with what is left before it and behind
it. -/
theorem exists_of_collapse_eq {left right : List (List Char)} (filled : line.isEmpty = false)
    (same : collapse afterEmpty given = left ++ line :: right) :
    ∃ before after, given = before ++ line :: after ∧ collapse afterEmpty before = left ∧
      collapse false after = right := by
  induction given generalizing afterEmpty left with
  | nil => simp at same
  | cons first rest ih =>
    cases first with
    | nil =>
      cases afterEmpty with
      | true =>
        obtain ⟨before, after, rfl, kept, behind⟩ := ih same
        exact ⟨[] :: before, after, rfl, kept, behind⟩
      | false =>
        -- the empty line is left, but it is not the one that is sought
        rcases List.cons_eq_append_iff.mp same with ⟨rfl, here⟩ | ⟨left, rfl, others⟩
        · cases here
          cases filled
        · obtain ⟨before, after, rfl, kept, behind⟩ := ih others
          exact ⟨[] :: before, after, rfl, congrArg ([] :: ·) kept, behind⟩
    | cons c first =>
      rcases List.cons_eq_append_iff.mp same with ⟨rfl, here⟩ | ⟨left, rfl, others⟩
      · cases here
        exact ⟨[], rest, rfl, rfl, rfl⟩
      · obtain ⟨before, after, rfl, kept, behind⟩ := ih others
        exact ⟨(c :: first) :: before, after, rfl, congrArg ((c :: first) :: ·) kept, behind⟩

/-- Not all empty lines of a run are left out. -/
theorem any_isEmpty_collapse (lines : List (List Char)) :
    (collapse false lines).any List.isEmpty = lines.any List.isEmpty := by
  induction lines with
  | nil => rfl
  | cons line rest ih =>
    cases line with
    | nil => rfl
    | cons c line => simp [ih]

theorem countP_collapse (afterEmpty : Bool) (lines : List (List Char)) :
    (collapse afterEmpty lines).countP (!List.isEmpty ·) = lines.countP (!List.isEmpty ·) := by
  rw [List.countP_eq_length_filter, List.countP_eq_length_filter, filter_collapse rfl]

/-! ### Items that blank ones separate -/

section Separated

variable {α β : Type} {blank : α → Bool} {items : List α} {i j : Nat}

/-- Of the items that are not blank, counted from zero, the one with the number `i` stands before
the one with the number `j`, and a blank item stands between them. -/
def Separated (blank : α → Bool) (items : List α) (i j : Nat) : Prop :=
  ∃ before first between second after,
    items = before ++ first :: (between ++ second :: after) ∧
    blank first = false ∧ blank second = false ∧ between.any blank = true ∧
    before.countP (!blank ·) = i ∧ (before ++ first :: between).countP (!blank ·) = j

theorem separated_map {f : β → α} {items : List β} :
    Separated blank (items.map f) i j ↔ Separated (blank ∘ f) items i j := by
  have counts (part : List β) :
      (part.map f).countP (!blank ·) = part.countP (!(blank ∘ f) ·) := List.countP_map
  constructor
  · rintro ⟨before, first, between, second, after, same, filled, filled', some, rfl, rfl⟩
    -- the list is taken apart from left to right
    obtain ⟨before, fromFirst, rfl, rfl, behind⟩ := List.map_eq_append_iff.mp same
    obtain ⟨first, behindFirst, rfl, rfl, further⟩ := List.map_eq_cons_iff.mp behind
    obtain ⟨between, fromSecond, rfl, rfl, last⟩ := List.map_eq_append_iff.mp further
    obtain ⟨second, after, rfl, rfl, rfl⟩ := List.map_eq_cons_iff.mp last
    refine ⟨before, first, between, second, after, rfl, filled, filled', ?_, ?_, ?_⟩
    · rwa [List.any_map] at some
    · rw [counts]
    · rw [← List.map_cons, ← List.map_append, counts]
  · rintro ⟨before, first, between, second, after, rfl, filled, filled', some, rfl, rfl⟩
    refine ⟨before.map f, f first, between.map f, f second, after.map f, by simp, filled, filled',
      ?_, ?_, ?_⟩
    · rwa [List.any_map]
    · rw [counts]
    · rw [← List.map_cons, ← List.map_append, counts]

/-- Two lines are separated by empty ones exactly where they are before runs of these are made
one. -/
theorem separated_collapse :
    Separated List.isEmpty (collapse false given) i j ↔ Separated List.isEmpty given i j := by
  constructor
  · rintro ⟨left, first, middle, second, right, same, filled, filled', some, rfl, rfl⟩
    obtain ⟨before, rest, rfl, rfl, behind⟩ := exists_of_collapse_eq filled same
    obtain ⟨between, after, rfl, rfl, rfl⟩ := exists_of_collapse_eq filled' behind
    refine ⟨before, first, between, second, after, rfl, filled, filled', ?_, ?_, ?_⟩
    · rwa [any_isEmpty_collapse] at some
    · rw [countP_collapse]
    · rw [← collapse_append_cons filled, countP_collapse]
  · rintro ⟨before, first, between, second, after, rfl, filled, filled', some, rfl, rfl⟩
    refine ⟨collapse false before, first, collapse false between, second, collapse false after,
      ?_, filled, filled', ?_, ?_, ?_⟩
    · rw [collapse_append_cons filled, collapse_append_cons filled']
    · rwa [any_isEmpty_collapse]
    · rw [countP_collapse]
    · rw [← collapse_append_cons filled, countP_collapse]

end Separated

/-! ### The normal form -/

/-- The lines of a normal form are trimmed already. -/
theorem map_trimRight_tidyLines (lines : List (List Char)) :
    (tidyLines lines).map trimRight = tidyLines lines := by
  refine List.map_congr_left (fun line member => ?_) |>.trans (List.map_id _)
  obtain ⟨raw, -, rfl⟩ := List.mem_map.mp ((collapse_sublist _ _).subset member)
  exact trimRight_trimRight raw

theorem tidyLines_tidyLines (lines : List (List Char)) :
    tidyLines (tidyLines lines) = tidyLines lines := by
  rw [tidyLines, map_trimRight_tidyLines, tidyLines, collapse_collapse]

theorem isBlank_of_mem_tidyLines {c : Char} (member : line ∈ tidyLines given)
    (ends : line.getLast? = some c) : isBlank c = false := by
  rw [← map_trimRight_tidyLines] at member
  obtain ⟨raw, -, rfl⟩ := List.mem_map.mp member
  exact isBlank_of_getLast?_trimRight ends

theorem isChain_tidyLines (lines : List (List Char)) :
    (tidyLines lines).IsChain
      fun line next => isBlankLine line = false ∨ isBlankLine next = false := by
  have filled {line : List Char} (some : trimRight line ≠ []) : isBlankLine line = false := by
    rw [← isEmpty_trimRight, List.isEmpty_eq_false_iff]
    exact some
  have runs : (tidyLines lines).IsChain _ := isChain_collapse false _
  rw [← map_trimRight_tidyLines, List.isChain_map] at runs
  exact runs.imp fun _ _ => Or.imp filled filled

theorem filter_tidyLines (lines : List (List Char)) :
    (tidyLines lines).filter (!isBlankLine ·) = (lines.filter (!isBlankLine ·)).map trimRight := by
  have same : ((!isBlankLine ·) ∘ trimRight) = (!isBlankLine ·) := by
    funext line
    exact congrArg (!·) (isBlankLine_trimRight line)
  rw [tidyLines, filter_collapse rfl, List.filter_map, same]

/-- Trimming makes the blank lines empty, and making runs of these one separates the same lines. -/
theorem separated_tidyLines (lines : List (List Char)) (i j : Nat) :
    Separated isBlankLine (tidyLines lines) i j ↔ Separated isBlankLine lines i j := by
  have blank : List.isEmpty ∘ trimRight = isBlankLine := funext isEmpty_trimRight
  calc Separated isBlankLine (tidyLines lines) i j
    _ ↔ Separated List.isEmpty (tidyLines lines) i j := by
      rw [← blank, ← separated_map, map_trimRight_tidyLines]
    _ ↔ Separated List.isEmpty (lines.map trimRight) i j := separated_collapse
    _ ↔ Separated isBlankLine lines i j := by rw [separated_map, blank]

/-- The normal form of a normal form is the text itself. No line of a normal form ends with a blank,
and no two blank lines follow one another. Its lines that are not blank are those of the text
without the blanks at their ends, and any two of them have a blank line between them exactly where
they have one or more in the text. -/
theorem tidy_normal_form (text : String) :
    tidy (tidy text) = tidy text ∧
      (∀ line ∈ lines (tidy text).toList, ∀ c, line.getLast? = some c → isBlank c = false) ∧
      (lines (tidy text).toList).IsChain
        (fun line next => isBlankLine line = false ∨ isBlankLine next = false) ∧
      (lines (tidy text).toList).filter (!isBlankLine ·) =
        ((lines text.toList).filter (!isBlankLine ·)).map trimRight ∧
      ∀ i j, Separated isBlankLine (lines (tidy text).toList) i j ↔
        Separated isBlankLine (lines text.toList) i j := by
  have again : tidy (tidy text) = tidy text := by
    rw [tidy, lines_tidy, tidyLines_tidyLines, tidy]
  rw [lines_tidy]
  refine ⟨again, fun line member c ends => ?_, isChain_tidyLines _, filter_tidyLines _, ?_⟩
  · exact isBlank_of_mem_tidyLines member ends
  · exact separated_tidyLines _

example : tidy "\n \nfirst  \nsecond\t\n \n\n\tthird\n\n" = "\nfirst\nsecond\n\n\tthird\n" := by
  decide

end HostBindings.Text
