import HostBindings.Text.Encoding
import HostBindings.Text.Printable

/-!
# Quoted text

Two ways to write a text on one line between quotation marks.

## Main definitions

* `Text.quote` — double quotes; the quotation mark, the backslash and the control characters below
  the space are escaped, all else stands as it is. It is a string of a JSON document and an
  interpreted string literal of the generated language.
* `Text.display` — the quotation that messages use: single quotes, or double quotes around a text
  that has single quotes only; characters that are not printable are shown by their number, and so
  are halves of surrogate pairs
-/

namespace HostBindings.Text

/-- How a character stands between double quotes. -/
def escape (c : Char) : List Char :=
  match c with
  | '"' => ['\\', '"']
  | '\\' => ['\\', '\\']
  | '\n' => ['\\', 'n']
  | '\r' => ['\\', 'r']
  | '\t' => ['\\', 't']
  | '\x08' => ['\\', 'b']
  | '\x0c' => ['\\', 'f']
  | _ => if c.toNat < 32 then '\\' :: 'u' :: hexDigits 4 c.toNat else [c]

/-- A text between double quotes. -/
def quote (text : String) : String :=
  String.ofList ('"' :: (text.toList.flatMap escape ++ ['"']))

/-- How a character stands in a displayed text with the given quotation mark. -/
def displayChar (mark c : Char) : List Char :=
  if c = mark ∨ c = '\\' then ['\\', c]
  else if c = '\n' then ['\\', 'n']
  else if c = '\r' then ['\\', 'r']
  else if c = '\t' then ['\\', 't']
  else if isPrintable c then [c]
  else if c.toNat < 0x100 then '\\' :: 'x' :: hexDigits 2 c.toNat
  else if c.toNat < 0x10000 then '\\' :: 'u' :: hexDigits 4 c.toNat
  else '\\' :: 'U' :: hexDigits 8 c.toNat

/-- How a code point stands in a displayed text. -/
def displayPoint (mark : Char) (point : Nat) : List Char :=
  if isHalf point then '\\' :: 'u' :: hexDigits 4 point else displayChar mark (Char.ofNat point)

/-- The quotation mark of a displayed text. -/
def displayMark (text : String) : Char :=
  if text.toList.contains '\'' && !text.toList.contains '"' then '"' else '\''

/-- A text as messages display it. -/
def display (text : String) : String :=
  let mark := displayMark text
  String.ofList (mark :: ((codePoints text.toList).flatMap (displayPoint mark) ++ [mark]))

end HostBindings.Text
