import HostBindings.Text.Digit

/-!
# Literals

Which texts can stand as literals of the generated language, and which event names can be passed
through without a warning. A single line feed at the end does not count against a text.

## Main definitions

* `Literal.isInteger`, `Literal.isFloat`, `Literal.isBoolean`
* `Literal.isPlainEventName`
-/

namespace HostBindings.Literal

/-- A text without one line feed at its end. -/
def dropLineEnd (text : List Char) : List Char :=
  if text.getLast? = some '\n' then text.dropLast else text

/-- A text without a sign at its start. -/
def dropMinus : List Char → List Char
  | '-' :: rest => rest
  | text => text

/-- The text behind the decimal digits at its start. -/
def afterDigits (text : List Char) : List Char :=
  text.dropWhile Text.isDecimalDigit

/-- Whether a text is a number of decimal digits, at least one. -/
def isDigits (text : List Char) : Bool :=
  !text.isEmpty && text.all Text.isDecimalDigit

/-- Whether a text is an integer, with or without a minus sign. -/
def isInteger (text : String) : Bool :=
  isDigits (dropMinus (dropLineEnd text.toList))

/-- Whether a text is an exponent or nothing. -/
def isExponent : List Char → Bool
  | [] => true
  | c :: rest =>
    (c == 'e' || c == 'E') &&
      match rest with
      | '+' :: digits => isDigits digits
      | '-' :: digits => isDigits digits
      | digits => isDigits digits

/-- Whether a text is a decimal number without a sign: digits, with a point anywhere among them,
and perhaps an exponent. -/
def isDecimal (text : List Char) : Bool :=
  match afterDigits text with
  | '.' :: fraction =>
    let exponent := afterDigits fraction
    -- there is a digit on one side of the point at least
    (text.head? != some '.' || exponent.length < fraction.length) && isExponent exponent
  | exponent => exponent.length < text.length && isExponent exponent

/-- Whether a text is a decimal number, with or without a minus sign. -/
def isFloat (text : String) : Bool :=
  isDecimal (dropMinus (dropLineEnd text.toList))

/-- Whether a text is a truth value. -/
def isBoolean (text : String) : Bool :=
  text == "true" || text == "false"

/-- Whether a character is plain in an event name. -/
def isPlainEventChar (c : Char) : Bool :=
  ('A' ≤ c && c ≤ 'Z') || ('a' ≤ c && c ≤ 'z') || ('0' ≤ c && c ≤ '9') ||
    c == '_' || c == ':' || c == '.' || c == '-'

/-- Whether an event name is plain throughout. -/
def isPlainEventName (name : String) : Bool :=
  let text := dropLineEnd name.toList
  !text.isEmpty && text.all isPlainEventChar

end HostBindings.Literal
