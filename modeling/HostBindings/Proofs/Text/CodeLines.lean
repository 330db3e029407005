import HostBindings.Proofs.Layout.Grammar

/-!
# Lines of code

Of the lines of a text, those are code that are neither blank nor, behind their tabs, a comment.
Putting texts together and bringing a text into its normal form keeps the lines of code, but for the
blanks at their ends.

## Main definitions

* `Text.isAside` — blank lines and comments
* `Text.codeLines` — the other lines of a text

## Main results

* `Text.codeLines_append`, `Text.codeLines_intercalate` — texts put together
* `Text.codeLines_trimNewlines` — line feeds around a text
* `Text.codeLines_tidy` — the normal form
-/

namespace HostBindings.Text

open Layout (isComment)

/-- Whether a line is blank, or a comment behind its tabs. -/
def isAside (line : List Char) : Bool :=
  line.all isBlank || isComment (line.dropWhile (· == '\t'))

/-- The lines of a text that are neither blank nor comments. -/
def codeLines (text : String) : List (List Char) :=
  (lines text.toList).filter fun line => !isAside line

@[simp] theorem codeLines_empty : codeLines "" = [] := by decide

/-! ### Texts put together -/

/-- Two texts with a line feed between them. -/
theorem codeLines_append (text more : String) :
    codeLines (text ++ "\n" ++ more) = codeLines text ++ codeLines more := by
  have feed : (text ++ "\n" ++ more).toList = text.toList ++ '\n' :: more.toList := by simp
  rw [codeLines, feed, lines_append, List.filter_append]
  rfl

/-- A text behind a line feed. -/
theorem codeLines_lead (text : String) : codeLines ("\n" ++ text) = codeLines text := by
  have feed : "\n" ++ text = "" ++ "\n" ++ text := by simp
  rw [feed, codeLines_append, codeLines_empty, List.nil_append]

/-- A text with a line feed behind it. -/
theorem codeLines_ended (text : String) : codeLines (text ++ "\n") = codeLines text := by
  have feed : text ++ "\n" = text ++ "\n" ++ "" := by simp
  rw [feed, codeLines_append, codeLines_empty, List.append_nil]

/-- Two texts with a blank line between them. -/
theorem codeLines_gap (text more : String) :
    codeLines (text ++ "\n\n" ++ more) = codeLines text ++ codeLines more := by
  have feeds : text ++ "\n\n" ++ more = text ++ "\n" ++ "\n" ++ more := by
    rw [← String.toList_inj]
    simp
  rw [feeds, codeLines_append, codeLines_ended]

/-- Texts with one line feed or more between each two. -/
theorem codeLines_intercalate {gap : String}
    (between : ∀ text more, codeLines (text ++ gap ++ more) = codeLines text ++ codeLines more)
    (texts : List String) : codeLines (gap.intercalate texts) = texts.flatMap codeLines := by
  induction texts with
  | nil => simp
  | cons text rest ih =>
    by_cases last : rest = []
    · simp [last]
    · rw [String.intercalate_cons_of_ne_nil last, between, ih, List.flatMap_cons]

/-! ### Single lines -/

/-- A text without line feeds is code or an aside. -/
theorem codeLines_single {text : String} (single : '\n' ∉ text.toList) :
    codeLines text = if isAside text.toList then [] else [text.toList] := by
  have one : text.toList.splitOn '\n' = [text.toList] := by
    have whole : ∀ line ∈ [text.toList], '\n' ∉ line := by simpa using single
    simpa using List.splitOn_intercalate '\n' whole
  rw [codeLines, lines, splitOn_eq, one, List.filter_cons]
  cases isAside text.toList <;> rfl

/-- A text whose first line is code. -/
theorem codeLines_ne_nil {text : String} (first : Char) (begins : text.toList.head? = some first)
    (filled : isBlank first = false) (other : first ≠ '/') : codeLines text ≠ [] := by
  obtain ⟨rest, same⟩ : ∃ rest, text.toList = first :: rest := by
    cases chars : text.toList with
    | nil => simp [chars] at begins
    | cons c rest => simp_all
  -- the first line begins with the first character, unless that is a line feed
  obtain ⟨line, more, found⟩ := List.exists_cons_of_ne_nil (splitOn_ne_nil '\n' rest)
  have feed : first ≠ '\n' := by
    rintro rfl
    exact absurd filled (by decide)
  have tab : first ≠ '\t' := by
    rintro rfl
    exact absurd filled (by decide)
  have comment : isComment (first :: line) = false := by
    have slashes : "//".toList = ['/', '/'] := rfl
    simp [isComment, slashes, List.isPrefixOf, Ne.symm other]
  have code : isAside (first :: line) = false := by simp [isAside, filled, tab, comment]
  intro none
  rw [codeLines, lines, same, splitOn, if_neg feed, found, List.filter_cons_of_pos (by simp [code])]
    at none
  cases none

/-! ### Trimming -/

private theorem codeLines_dropWhile (text : List Char) :
    codeLines (String.ofList (text.dropWhile (· == '\n'))) = codeLines (String.ofList text) := by
  induction text with
  | nil => rfl
  | cons c rest ih =>
    by_cases feed : c = '\n'
    · have lead : String.ofList ('\n' :: rest) = "\n" ++ String.ofList rest := by
        rw [← List.singleton_append, String.ofList_append]
      rw [List.dropWhile_cons_of_pos (by simpa using feed), ih, feed, lead, codeLines_lead]
    · rw [List.dropWhile_cons_of_neg (by simpa using feed)]

theorem codeLines_trimRightNewlines (text : List Char) :
    codeLines (String.ofList (trimRightNewlines text)) = codeLines (String.ofList text) := by
  rw [trimRightNewlines, dropTail_eq_rdropWhile]
  induction text using List.reverseRecOn with
  | nil => rfl
  | append_singleton rest c ih =>
    by_cases feed : c = '\n'
    · have last : String.ofList (rest ++ ['\n']) = String.ofList rest ++ "\n" := by
        rw [String.ofList_append]
      rw [List.rdropWhile_concat_pos _ _ _ (by simpa using feed), ih, feed, last, codeLines_ended]
    · rw [List.rdropWhile_concat_neg _ _ _ (by simpa using feed)]

/-- Line feeds around a text are no lines of code. -/
theorem codeLines_trimNewlines (text : String) :
    codeLines (String.ofList (trimNewlines text.toList)) = codeLines text := by
  have outer := codeLines_trimRightNewlines (text.toList.dropWhile (· == '\n'))
  rw [trimNewlines, ← trimRightNewlines, outer, codeLines_dropWhile, String.ofList_toList]

/-! ### The normal form -/

/-- A blank behind a line makes no difference to what it is. -/
private theorem isAside_concat (line : List Char) {c : Char} (blank : isBlank c = true) :
    isAside (line ++ [c]) = isAside line := by
  rw [isAside, isAside, List.all_append]
  by_cases all : line.all isBlank
  · simp [all, blank]
  -- some character is no blank, so the tabs in front end before the new one
  have stays : (line.dropWhile (· == '\t')).isEmpty = false := by
    rw [List.isEmpty_eq_false_iff]
    intro none
    refine all (List.all_eq_true.mpr fun d member => ?_)
    have tab := List.dropWhile_eq_nil_iff.mp none d member
    rw [eq_of_beq tab]
    decide
  have slash : c ≠ '/' := by
    rintro rfl
    exact absurd blank (by decide)
  rw [List.dropWhile_append, stays]
  simp only [all, Bool.false_and, Bool.false_or, Bool.false_eq_true, if_false, isComment]
  rw [Bool.eq_iff_iff, List.isPrefixOf_iff_prefix, List.isPrefixOf_iff_prefix,
    List.prefix_concat_iff]
  constructor
  · rintro (same | lead)
    · have last := congrArg List.getLast? same
      rw [List.getLast?_concat] at last
      exact absurd (Option.some.inj last).symm slash
    · exact lead
  · exact .inr

/-- So it is with all blanks at the end. -/
theorem isAside_trimRight (line : List Char) : isAside (trimRight line) = isAside line := by
  rw [trimRight, dropTail_eq_rdropWhile]
  induction line using List.reverseRecOn with
  | nil => rfl
  | append_singleton rest c ih =>
    by_cases blank : isBlank c
    · rw [List.rdropWhile_concat_pos _ _ _ blank, ih, isAside_concat rest blank]
    · rw [List.rdropWhile_concat_neg _ _ _ blank]

/-- The normal form of a text has its lines of code, without the blanks at their ends. -/
theorem codeLines_tidy (text : String) :
    codeLines (tidy text) = (codeLines text).map trimRight := by
  have trims : ((fun line => !isAside line) ∘ trimRight) = fun line => !isAside line := by
    funext line
    simp [isAside_trimRight]
  rw [codeLines, lines_tidy, tidyLines, filter_collapse rfl, List.filter_map, trims, codeLines]

end HostBindings.Text
