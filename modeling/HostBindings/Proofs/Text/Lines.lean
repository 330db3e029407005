import HostBindings.Proofs.Text.Trimming
import HostBindings.Text.Layout

/-!
# Lines and paragraphs

A text is a list of lines, and its lines are a list of paragraphs: what stands between two empty
lines. Texts put together with a blank line between them have the paragraphs of their parts, and the
normal form of a text trims its paragraphs line by line where no blank line is superfluous.

## Main definitions

* `Text.paragraphs` — the paragraphs of a text

## Main results

* `Text.infix_of_mem_lines` — a line within its text
* `Text.paragraphs_gap`, `Text.paragraphs_intercalate` — texts with blank lines between them
* `Text.paragraphs_joined` — a text of given lines
* `Text.lines_tidy`, `Text.paragraphs_tidy` — the normal form
-/

namespace HostBindings.Text

/-! ### Lines -/

theorem splitOn_eq (separator : Char) (text : List Char) :
    splitOn separator text = text.splitOn separator := by
  induction text with
  | nil => rfl
  | cons c rest ih =>
    rw [splitOn, List.splitOn_cons_eq_if_modifyHead, ih]
    by_cases same : c = separator
    · simp [same]
    · obtain ⟨part, parts, found⟩ :=
        List.exists_cons_of_ne_nil (List.splitOn_ne_nil separator rest)
      simp [same, found]

/-- Two texts with a line feed between them. -/
theorem lines_append (text more : List Char) :
    lines (text ++ '\n' :: more) = lines text ++ lines more := by
  simp only [lines, splitOn_eq]
  exact List.splitOn_append_cons_self text more

/-- A part stands as it is in what the parts are joined to. -/
theorem infix_of_mem_intercalate {α : Type} {gap part : List α} {parts : List (List α)}
    (member : part ∈ parts) : part <:+: gap.intercalate parts := by
  induction parts with
  | nil => cases member
  | cons first rest ih =>
    by_cases last : rest = []
    · rw [last, List.mem_singleton] at member
      simp [last, member]
    · rw [List.intercalate_cons_of_ne_nil last]
      rcases List.mem_cons.mp member with rfl | later
      · rw [List.append_assoc]
        exact (List.prefix_append part _).isInfix
      · exact (ih later).trans (List.suffix_append _ _).isInfix

/-- A line stands in its text as it is. -/
theorem infix_of_mem_lines {text line : List Char} (member : line ∈ lines text) :
    line <:+: text := by
  rw [lines, splitOn_eq] at member
  have within : line <:+: ['\n'].intercalate (text.splitOn '\n') := infix_of_mem_intercalate member
  rwa [List.intercalate_splitOn] at within

/-- No part has the character that parts are between. -/
theorem not_mem_of_mem_splitOn {separator : Char} {text part : List Char}
    (member : part ∈ splitOn separator text) : separator ∉ part := by
  -- the induction follows the text: its first character ends a part or belongs to the first one
  induction text generalizing part with
  | nil => simp_all [splitOn]
  | cons c rest ih =>
    rw [splitOn] at member
    split at member
    · rcases List.mem_cons.mp member with rfl | member
      · exact List.not_mem_nil
      · exact ih member
    next other =>
      split at member
      next none => exact absurd none (splitOn_ne_nil separator rest)
      next first parts found =>
        rcases List.mem_cons.mp member with rfl | member
        · have tail : separator ∉ first := ih (by simp [found])
          simpa [tail] using Ne.symm other
        · exact ih (by simp [found, member])

/-- No line has a line feed. -/
theorem not_mem_of_mem_lines {text line : List Char} (member : line ∈ lines text) :
    '\n' ∉ line :=
  not_mem_of_mem_splitOn member

theorem joinLines_eq (lines : List (List Char)) : joinLines lines = ['\n'].intercalate lines := by
  induction lines with
  | nil => rfl
  | cons line rest ih =>
    cases rest with
    | nil => simp [joinLines]
    | cons next rest =>
      rw [joinLines, ih, List.intercalate_cons_cons, List.append_assoc, List.singleton_append]
      exact List.cons_ne_nil next rest

/-- Lines that are joined are the lines of what comes out. -/
theorem lines_joinLines {parts : List (List Char)} (some : parts ≠ [])
    (single : ∀ line ∈ parts, '\n' ∉ line) : lines (joinLines parts) = parts := by
  rw [lines, splitOn_eq, joinLines_eq, List.splitOn_intercalate _ single some]

/-! ### Paragraphs -/

/-- What is part of texts with a gap between each two is part of the gap or of one of them. -/
theorem mem_of_mem_intercalate {α : Type} {a : α} {gap : List α} {parts : List (List α)}
    (member : a ∈ gap.intercalate parts) : a ∈ gap ∨ ∃ part ∈ parts, a ∈ part := by
  induction parts with
  | nil => simp at member
  | cons part rest ih =>
    by_cases last : rest = []
    · subst last
      exact .inr ⟨part, List.mem_cons_self, by simpa using member⟩
    · rw [List.intercalate_cons_of_ne_nil last, List.append_assoc, List.mem_append,
        List.mem_append] at member
      rcases member with here | between | later
      · exact .inr ⟨part, List.mem_cons_self, here⟩
      · exact .inl between
      · rcases ih later with between | ⟨other, otherMember, there⟩
        · exact .inl between
        · exact .inr ⟨other, List.mem_cons_of_mem _ otherMember, there⟩

/-- The paragraphs of a text: its lines, between the empty ones. -/
def paragraphs (text : String) : List (List (List Char)) :=
  (lines text.toList).splitOn []

/-- Two texts with a blank line between them. -/
theorem paragraphs_gap (text more : String) :
    paragraphs (text ++ "\n\n" ++ more) = paragraphs text ++ paragraphs more := by
  have gap : (text ++ "\n\n" ++ more).toList =
      text.toList ++ '\n' :: ([] ++ '\n' :: more.toList) := by simp
  have empty : lines [] = [[]] := rfl
  rw [paragraphs, gap, lines_append, lines_append, empty, List.singleton_append,
    List.splitOn_append_cons_self]
  rfl

/-- A text with a line feed behind it. -/
theorem paragraphs_ended (text : String) : paragraphs (text ++ "\n") = paragraphs text ++ [[]] := by
  have ended : (text ++ "\n").toList = text.toList ++ '\n' :: [] := by simp
  have empty : lines [] = [] :: [] := rfl
  rw [paragraphs, ended, lines_append, empty, List.splitOn_append_cons_self]
  rfl

/-- A list of texts with a blank line between each two. -/
theorem paragraphs_intercalate {texts : List String} (some : texts ≠ []) :
    paragraphs ("\n\n".intercalate texts) = texts.flatMap paragraphs := by
  induction texts with
  | nil => exact absurd rfl some
  | cons text rest ih =>
    by_cases more : rest = []
    · simp [more]
    · rw [String.intercalate_cons_of_ne_nil more, paragraphs_gap, ih more, List.flatMap_cons]

/-- A text of given lines. -/
theorem paragraphs_joined {parts : List String} (some : parts ≠ [])
    (single : ∀ line ∈ parts, '\n' ∉ line.toList) :
    paragraphs ("\n".intercalate parts) = (parts.map String.toList).splitOn [] := by
  have feed : "\n".toList = ['\n'] := rfl
  rw [paragraphs, String.toList_intercalate, feed, ← joinLines_eq, lines_joinLines]
  · simpa using some
  · simpa using single

/-! ### The lines of a normal form -/

theorem prefix_trimRight (line : List Char) : trimRight line <+: line := by
  rw [trimRight, dropTail_eq_rdropWhile]
  exact List.rdropWhile_prefix _ _

theorem trimRight_sublist (line : List Char) : (trimRight line).Sublist line :=
  (prefix_trimRight line).sublist

theorem collapse_sublist (afterEmpty : Bool) (lines : List (List Char)) :
    (collapse afterEmpty lines).Sublist lines := by
  induction lines generalizing afterEmpty with
  | nil => exact .slnil
  | cons line rest ih =>
    cases line with
    | nil =>
      cases afterEmpty with
      | true => exact (ih true).cons []
      | false => exact (ih true).cons_cons []
    | cons c line => exact (ih false).cons_cons (c :: line)

/-- Only empty lines are left out. -/
theorem filter_collapse {p : List Char → Bool} (empty : p [] = false) (afterEmpty : Bool)
    (lines : List (List Char)) : (collapse afterEmpty lines).filter p = lines.filter p := by
  induction lines generalizing afterEmpty with
  | nil => rfl
  | cons line rest ih =>
    cases line with
    | nil => cases afterEmpty <;> simp [ih, empty]
    | cons c line => rw [collapse_filled, List.filter_cons, List.filter_cons, ih]

theorem collapse_ne_nil {lines : List (List Char)} (some : lines ≠ []) :
    collapse false lines ≠ [] := by
  obtain ⟨line, rest, rfl⟩ := List.exists_cons_of_ne_nil some
  cases line <;> simp

/-- The lines of a normal form are the trimmed lines of the text, with runs of empty ones made
one. -/
theorem lines_tidy (text : String) :
    lines (tidy text).toList = tidyLines (lines text.toList) := by
  rw [tidy, String.toList_ofList, lines_joinLines]
  · apply collapse_ne_nil
    simpa [lines] using splitOn_ne_nil '\n' text.toList
  · intro line member feed
    -- trimming makes no line feeds
    obtain ⟨raw, there, rfl⟩ := List.mem_map.mp ((collapse_sublist _ _).subset member)
    exact not_mem_of_mem_lines there ((trimRight_sublist raw).subset feed)

/-! ### Texts without superfluous blank lines -/

/-- A text without empty paragraphs has no line feed at its start or end. -/
theorem trimNewlines_of_paragraphs {text : String} (full : [] ∉ paragraphs text) :
    trimNewlines text.toList = text.toList := by
  obtain ⟨chars, rfl⟩ : ∃ chars, text = String.ofList chars := ⟨text.toList, by simp⟩
  simp only [String.toList_ofList]
  cases chars with
  | nil => exact absurd (by decide) full
  | cons first rest =>
    refine trimNewlines_eq_self ?_ fun ends => ?_
    · rintro rfl
      -- a line feed at the start would end an empty line, and that a paragraph
      refine full ?_
      have empty : lines [] = [] ++ [[]] := rfl
      rw [paragraphs, String.toList_ofList, ← List.nil_append ('\n' :: rest), lines_append, empty,
        List.append_assoc, List.singleton_append, List.splitOn_append_cons_self]
      exact List.mem_append_left _ (by simp)
    · refine full ?_
      rw [← List.dropLast_concat_getLast (List.cons_ne_nil first rest), ends, String.ofList_append]
      have feed : String.ofList ['\n'] = "\n" := rfl
      rw [feed, paragraphs_ended]
      simp

theorem trimRightNewlines_of_paragraphs {text : String} (full : [] ∉ paragraphs text) :
    trimRightNewlines text.toList = text.toList := by
  have same := trimNewlines_of_paragraphs full
  -- nothing is cut at the end, since nothing is cut at both ends together
  have lead : text.toList.dropWhile (· == '\n') = text.toList := by
    have drop := (text.toList.dropWhile_suffix (· == '\n')).sublist
    refine drop.antisymm ?_
    have within : (trimNewlines text.toList).Sublist (text.toList.dropWhile (· == '\n')) := by
      rw [trimNewlines, dropTail_eq_rdropWhile]
      exact (List.rdropWhile_prefix _ _).sublist
    rwa [same] at within
  rwa [trimNewlines, lead] at same

theorem ne_empty_of_paragraphs {text : String} (full : [] ∉ paragraphs text) : text ≠ "" := by
  rintro rfl
  exact full (by decide)

/-- Where no blank line is superfluous, runs of them are as they should be. -/
theorem collapse_intercalate {parts : List (List (List Char))}
    (full : ∀ part ∈ parts, part ≠ [] ∧ [] ∉ part) (afterEmpty : Bool) :
    collapse afterEmpty ([[]].intercalate (parts ++ [[]])) = [[]].intercalate (parts ++ [[]]) := by
  -- within a paragraph no line is empty, so nothing is dropped up to its end
  have within (part tail : List (List Char)) (lines : [] ∉ part) (b : Bool) :
      part ≠ [] → collapse b (part ++ [] :: tail) = part ++ [] :: collapse true tail := by
    induction part generalizing b with
    | nil => exact fun some => absurd rfl some
    | cons line rest ih =>
      intro _
      rw [List.mem_cons, not_or] at lines
      have filled : line.isEmpty = false := by simpa using Ne.symm lines.1
      rw [List.cons_append, collapse, if_neg (by simp [filled])]
      by_cases last : rest = []
      · simp [last]
      · rw [ih lines.2 false last, List.cons_append]
  induction parts generalizing afterEmpty with
  | nil => simp
  | cons part rest ih =>
    obtain ⟨some, lines⟩ := full part List.mem_cons_self
    have others : rest ++ [[]] ≠ [] := by simp
    rw [List.cons_append, List.intercalate_cons_of_ne_nil others, List.append_assoc,
      List.singleton_append, within _ _ lines _ some,
      ih fun other member => full other (List.mem_cons_of_mem _ member)]

theorem map_intercalate {α β : Type} (f : α → β) (gap : List α) (parts : List (List α)) :
    (gap.intercalate parts).map f = (gap.map f).intercalate (parts.map (List.map f)) := by
  induction parts with
  | nil => simp
  | cons part rest ih =>
    cases rest with
    | nil => simp
    | cons next rest => simp_all [List.intercalate_cons_cons]

/-- The normal form of a text trims the lines of its paragraphs, and leaves the rest as it is where
only the last paragraph is empty and no line is blank. -/
theorem paragraphs_tidy {text : String} {parts : List (List (List Char))}
    (same : paragraphs text = parts ++ [[]])
    (full : ∀ part ∈ parts, part ≠ [] ∧ ∀ line ∈ part, trimRight line ≠ []) :
    paragraphs (tidy text) = parts.map (List.map trimRight) ++ [[]] := by
  have all : lines text.toList = [[]].intercalate (parts ++ [[]]) := by
    rw [← same, paragraphs, List.intercalate_splitOn]
  have trimmed : (lines text.toList).map trimRight =
      [[]].intercalate (parts.map (List.map trimRight) ++ [[]]) := by
    rw [all, map_intercalate, List.map_append]
    rfl
  -- paragraphs that are not empty have no blank line, so runs of empty lines are left alone
  have filled : ∀ part ∈ parts.map (List.map trimRight), part ≠ [] ∧ [] ∉ part := by
    intro part member
    obtain ⟨raw, rawMember, rfl⟩ := List.mem_map.mp member
    obtain ⟨some, lines⟩ := full raw rawMember
    refine ⟨by simpa using some, fun empty => ?_⟩
    obtain ⟨line, lineMember, blank⟩ := List.mem_map.mp empty
    exact lines line lineMember blank
  rw [paragraphs, lines_tidy, tidyLines, trimmed, collapse_intercalate filled,
    List.splitOn_intercalate]
  · intro part member
    rcases List.mem_append.mp member with early | last
    · exact (filled part early).2
    · simp_all
  · simp

end HostBindings.Text
