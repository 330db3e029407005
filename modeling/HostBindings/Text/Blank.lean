import HostBindings.Text.Ranges

/-!
# Blank characters and words

What separates words and what trimming removes: the blanks of every script, line ends included, and
the four information separators.

## Main definitions

* `Text.isBlank` — the class
* `Text.trimRight`, `Text.trim` — a text without its outer blanks
* `Text.words` — the maximal runs of other characters
* `Text.trimNewlines` — a text without its outer line feeds
-/

namespace HostBindings.Text

/-- The code points of blanks. -/
def blankRanges : Ranges :=
  [(9, 13), (28, 32), (133, 133), (160, 160), (5760, 5760), (8192, 8202), (8232, 8233),
    (8239, 8239), (8287, 8287), (12288, 12288)]

/-- Whether a character separates words. -/
def isBlank (c : Char) : Bool :=
  blankRanges.contains c.toNat

/-- A list without its longest tail of members of a class. -/
def dropTail (p : α → Bool) : List α → List α
  | [] => []
  | a :: rest =>
    match dropTail p rest with
    | [] => if p a then [] else [a]
    | kept => a :: kept

/-- A text without its trailing blanks. -/
def trimRight (text : List Char) : List Char :=
  dropTail isBlank text

/-- A text without its leading and trailing blanks. -/
def trim (text : List Char) : List Char :=
  trimRight (text.dropWhile isBlank)

/-- A text without its leading and trailing line feeds. -/
def trimNewlines (text : List Char) : List Char :=
  dropTail (· == '\n') (text.dropWhile (· == '\n'))

/-- A text without its trailing line feeds. -/
def trimRightNewlines (text : List Char) : List Char :=
  dropTail (· == '\n') text

/-- The words of a text: its maximal runs of characters that are not blank. -/
def words : List Char → List (List Char)
  | [] => []
  | c :: rest =>
    if isBlank c then words rest
    else
      match rest with
      | [] => [[c]]
      | d :: _ =>
        if isBlank d then [c] :: words rest
        else
          match words rest with
          | [] => [[c]]
          | word :: more => (c :: word) :: more

end HostBindings.Text
