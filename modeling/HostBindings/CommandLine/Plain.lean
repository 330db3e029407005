import HostBindings.CommandLine.Screen
import HostBindings.Text.Layout
import HostBindings.Text.Lines

/-!
# The screen as plain text

What is shown, for a terminal without colours: markup is left out, and the columns of a table are
set one below the other.

## Main definitions

* `isTag`, `withoutMarkup` — markup, and a text without it
* `columnWidths`, `tableLines` — tables
* `ScreenItem.plain` — the plain text of one thing that is shown
-/

namespace HostBindings.CommandLine

/-- Whether a text between brackets is markup: names of styles, or a slash before them. -/
def isTag (text : List Char) : Bool :=
  !text.isEmpty && text.all fun c => c.isLower || c == ' ' || c == '/'

/-- A text without markup. -/
def withoutMarkup : List Char → List Char
  | [] => []
  | c :: rest =>
    if c = '[' then
      let tag := rest.takeWhile (· != ']')
      if isTag tag && tag.length < rest.length then withoutMarkup (rest.drop (tag.length + 1))
      else c :: withoutMarkup rest
    else c :: withoutMarkup rest
termination_by text => text.length

/-- A string without markup; its lines stand in one line. -/
def plainCell (text : String) : List Char :=
  withoutMarkup ([',', ' '].intercalate (Text.lines text.toList))

/-- The greater of two widths, for each column. -/
def widen : List Nat → List Nat → List Nat
  | [], widths => widths
  | widths, [] => widths
  | a :: rest, b :: others => max a b :: widen rest others

/-- The widths of the columns of a table. -/
def columnWidths (rows : List (List (List Char))) : List Nat :=
  rows.foldl (fun widths row => widen widths (row.map List.length)) []

/-- The line of a row: every cell but the last is filled up to the width of its column, and two
blanks are between columns. -/
def rowLine : List Nat → List (List Char) → List Char
  | _, [] => []
  | _, [cell] => cell
  | [], cell :: rest => cell ++ [' ', ' '] ++ rowLine [] rest
  | width :: widths, cell :: rest =>
    cell ++ List.replicate (width - cell.length) ' ' ++ [' ', ' '] ++ rowLine widths rest

/-- The lines of a table. -/
def tableLines (columns : List String) (rows : List (List String)) : List (List Char) :=
  let cells := (columns :: rows).map fun row => row.map plainCell
  cells.map (rowLine (columnWidths cells))

/-- The plain text of one thing that is shown. -/
def ScreenItem.plain : ScreenItem → String
  | .line text => String.ofList (withoutMarkup text.toList)
  | .table title columns rows =>
    String.ofList (Text.joinLines (withoutMarkup title.toList :: tableLines columns rows))
  | .panel title text => String.ofList (withoutMarkup (title ++ "\n" ++ text).toList)
  | .code text _ => text

end HostBindings.CommandLine
