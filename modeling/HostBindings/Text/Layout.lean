import HostBindings.Text.Blank
import HostBindings.Text.Lines

/-!
# Layout of generated code

The normal form of a text: no line ends in blanks, and of several blank lines in a row one stays.
Beside it the lines of a comment: trimmed, one marker to a line, no trailing blanks.

## Main definitions

* `Text.collapse` — runs of empty lines made one
* `Text.tidy` — the normal form of a text
* `Text.commentLines` — a text as lines of a comment

## Main results

* `collapse_empty_true`, `collapse_empty_false`, `collapse_filled` — what becomes of one line
-/

namespace HostBindings.Text

/-- Lines with each run of empty ones made a single one; `afterEmpty` says whether the line before
was empty. -/
def collapse (afterEmpty : Bool) : List (List Char) → List (List Char)
  | [] => []
  | line :: rest =>
    if line.isEmpty then
      if afterEmpty then collapse true rest else [] :: collapse true rest
    else line :: collapse false rest

@[simp] theorem collapse_nil (afterEmpty : Bool) : collapse afterEmpty [] = [] := rfl

@[simp] theorem collapse_empty_true (rest : List (List Char)) :
    collapse true ([] :: rest) = collapse true rest := rfl

@[simp] theorem collapse_empty_false (rest : List (List Char)) :
    collapse false ([] :: rest) = [] :: collapse true rest := rfl

@[simp] theorem collapse_filled (afterEmpty : Bool) (c : Char) (line : List Char)
    (rest : List (List Char)) :
    collapse afterEmpty ((c :: line) :: rest) = (c :: line) :: collapse false rest := rfl

/-- The normal form of a list of lines. -/
def tidyLines (lines : List (List Char)) : List (List Char) :=
  collapse false (lines.map trimRight)

/-- Lines with a line feed between each two. -/
def joinLines : List (List Char) → List Char
  | [] => []
  | [line] => line
  | line :: rest => line ++ '\n' :: joinLines rest

/-- The normal form of a text. -/
def tidy (text : String) : String :=
  String.ofList (joinLines (tidyLines (lines text.toList)))

/-- One line of a comment. A blank line is the marker alone. -/
def commentLine (marker : List Char) (line : List Char) : List Char :=
  if line.all isBlank then marker else marker ++ ' ' :: trimRight line

/-- The lines of a comment. -/
def commentLines (text : String) (marker : String := "//") : List String :=
  (lines (trim text.toList)).map fun line => String.ofList (commentLine marker.toList line)

end HostBindings.Text
