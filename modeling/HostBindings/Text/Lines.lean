/-!
# Lines and pieces

A text as the lines between its line feeds. A text without a line feed is one line, so the list of
lines is never empty. A piece of a text may stand anywhere in it.

## Main definitions

* `Text.splitOn` — the parts of a text between the occurrences of a character
* `Text.lines` — the lines of a text
* `Text.unifyLineEnds` — a text with line feeds for all ends of lines
* `Text.occursIn` — whether a piece stands in a text

## Main results

* `splitOn_ne_nil` — there is always a part
-/

namespace HostBindings.Text

/-- The parts of a text between the occurrences of a character. -/
def splitOn (separator : Char) : List Char → List (List Char)
  | [] => [[]]
  | c :: rest =>
    if c = separator then [] :: splitOn separator rest
    else
      match splitOn separator rest with
      | [] => [[c]]
      | part :: parts => (c :: part) :: parts

/-- The lines of a text. -/
def lines (text : List Char) : List (List Char) :=
  splitOn '\n' text

/-- A text with every line end made a single line feed: a carriage return, alone or before a line
feed, ends a line too. -/
def unifyLineEndsOf : List Char → List Char
  | [] => []
  | '\r' :: '\n' :: rest => '\n' :: unifyLineEndsOf rest
  | c :: rest => (if c = '\r' then '\n' else c) :: unifyLineEndsOf rest

/-- A string with every line end made a single line feed. -/
def unifyLineEnds (text : String) : String :=
  String.ofList (unifyLineEndsOf text.toList)

/-- Whether a piece stands somewhere in a text. -/
def occursIn (piece : List Char) : List Char → Bool
  | [] => piece.isEmpty
  | c :: rest => piece.isPrefixOf (c :: rest) || occursIn piece rest

theorem splitOn_ne_nil (separator : Char) (text : List Char) : splitOn separator text ≠ [] := by
  cases text with
  | nil => simp [splitOn]
  | cons c rest =>
    simp only [splitOn]
    split
    · simp
    · split <;> simp

end HostBindings.Text
