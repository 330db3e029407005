import HostBindings.Literal
import HostBindings.Proofs.Text.Lines
import HostBindings.Text.WordChar
import Mathlib.Data.List.Basic

/-!
# The layout of generated code

Generated code is read here line by line, without regard to how it was written. A file is a list of
paragraphs with one blank line between each two: a notice of comment lines, the package clause,
perhaps an import clause, and declarations. A declaration begins with its comment lines; an
enumeration has two paragraphs, the type and the constants. Within brackets every line is a tab and
a comment or one member. Reading a file gives the names that it declares, in order.

## Main definitions

* `Layout.afterSlot?`, `Layout.afterSignature?` — names with types, and signatures
* `Layout.field?`, `Layout.constant?` — the members of a structure, and constants
* `Layout.body?`, `Layout.item?` — bracketed lines, and a paragraph of a declaration
* `Layout.declarations?`, `Layout.file?` — paragraphs
* `Layout.declaredNames?` — the names that a text declares, if it has the layout
-/

namespace HostBindings.Layout

/-- A line. -/
abbrev Line := List Char

/-- Lines none of which is empty. -/
abbrev Paragraph := List Line

/-! ### Words, types and literals -/

/-- Whether a line is a comment. -/
def isComment (line : Line) : Bool := "//".toList.isPrefixOf line

/-- The characters of one class that a text begins with, at least one, and the text behind them. -/
def token? (p : Char → Bool) (text : Line) : Option (Line × Line) :=
  match text.takeWhile p with
  | [] => none
  | token => some (token, text.dropWhile p)

/-- Whether a text is a word. -/
def isWord (text : Line) : Bool := !text.isEmpty && text.all Text.isWordChar

/-- Whether a character can stand in the name of a type: pointers and packages count. -/
def isTypeChar (c : Char) : Bool := Text.isWordChar c || c == '*' || c == '.'

/-- Whether a text is the name of a type. -/
def isTypeName (text : Line) : Bool := !text.isEmpty && text.all isTypeChar

/-- Whether a text is the rest of an interpreted string literal: its only quotation mark that is not
escaped is its last character. -/
def closesQuote : Line → Bool
  | [] => false
  | ['"'] => true
  | '\\' :: _ :: rest => closesQuote rest
  | c :: rest => c != '"' && closesQuote rest

/-- Whether a text is an interpreted string literal. -/
def isQuoted : Line → Bool
  | '"' :: rest => closesQuote rest
  | _ => false

/-- Whether a text is a literal. -/
def isLiteral (text : Line) : Bool :=
  let plain := String.ofList text
  isQuoted text || Literal.isInteger plain || Literal.isFloat plain || Literal.isBoolean plain

/-! ### Members -/

/-- What stands behind a name with its type. -/
def afterSlot? (text : Line) : Option Line := do
  let (_, rest) ← token? Text.isWordChar text
  let type ← rest.dropPrefix? [' ']
  return (← token? isTypeChar type).2

/-- Whether words are parameters: names, each with a type and a comma behind it. -/
def areParameters : List Line → Bool
  | [] => true
  | [_] => false
  | name :: type :: rest =>
    isWord name && isTypeName type.dropLast && type.getLast? == some ',' && areParameters rest

/-- What stands behind a signature: its parameters in brackets, and perhaps a result in brackets of
its own. -/
def afterSignature? (text : Line) : Option Line := do
  let inner ← text.dropPrefix? "func(".toList
  let parameters := inner.takeWhile (· != ')')
  let rest ← (inner.dropWhile (· != ')')).dropPrefix? [')']
  if parameters = [] ∨ areParameters (parameters.splitOn ' ') then
    match rest.dropPrefix? " (".toList with
    | none => return rest
    | some result => (← afterSlot? result).dropPrefix? [')']
  else none

/-- Whether a text is nothing, or a raw string literal behind a space. -/
def isTag : Line → Bool
  | [] => true
  | ' ' :: '\x60' :: rest => rest.getLast? == some '\x60' && !rest.dropLast.contains '\x60'
  | _ => false

/-- A field: a name with a signature or a type, and perhaps a tag. It declares no name of the
package. -/
def field? (text : Line) : Option (List String) := do
  let (_, rest) ← token? Text.isWordChar text
  let type ← rest.dropPrefix? [' ']
  let tag ←
    match afterSignature? type with
    | some tag => some tag
    | none => (token? isTypeChar type).map (·.2)
  if isTag tag then return [] else none

/-- What stands between the name of a constant and its value: its type, if it has one, and the
equality sign. -/
def equals (type? : Option String) : String :=
  match type? with
  | some type => " " ++ type ++ " = "
  | none => " = "

/-- A constant declares its name. -/
def constant? (type? : Option String) (text : Line) : Option (List String) := do
  let (name, rest) ← token? Text.isWordChar text
  let value ← rest.dropPrefix? (equals type?).toList
  if isLiteral value then return [String.ofList name] else none

/-! ### Paragraphs -/

/-- What a line in brackets declares: nothing if it is a comment. -/
def line? (member? : Line → Option (List String)) (text : Line) : Option (List String) :=
  if isComment text then some [] else member? text

/-- Bracketed lines up to the closing bracket: each is a tab, and a comment or one member. They
declare what the members declare. -/
def body? (member? : Line → Option (List String)) (closing : Line) :
    Paragraph → Option (List String)
  | [] => none
  | [last] => if last = closing then some [] else none
  | line :: rest => do
    let text ← line.dropPrefix? ['\t']
    let names ← line? member? text
    return names ++ (← body? member? closing rest)

/-- The constants in brackets. -/
def constants? (type? : Option String) : Paragraph → Option (List String)
  | [] => none
  | first :: body => if first = "const (".toList then body? (constant? type?) [')'] body else none

/-- A paragraph of a declaration. -/
inductive Item where
  /-- A whole declaration, with the names that it declares. -/
  | whole (names : List String)
  /-- The type of an enumeration, whose constants are the next paragraph. -/
  | enumerated (name : String)
  deriving DecidableEq

/-- The paragraph of a type, behind its name: a structure, a function type, or the type of an
enumeration. -/
def typed? (name : String) (type : Line) (body : Paragraph) : Option Item :=
  if type = "struct \x7b".toList then
    (body? field? ['\x7d'] body).map fun names => .whole (name :: names)
  else if body ≠ [] then none
  else if afterSignature? type = some [] then some (.whole [name])
  else if isTypeName type then some (.enumerated name)
  else none

/-- The paragraph of a type. -/
def typeItem? (first : Line) (body : Paragraph) : Option Item := do
  let (name, rest) ← token? Text.isWordChar (← first.dropPrefix? "type ".toList)
  typed? (String.ofList name) (← rest.dropPrefix? [' ']) body

/-- A paragraph that begins with comment lines. -/
def item? (paragraph : Paragraph) : Option Item :=
  match paragraph.dropWhile isComment with
  | [] => none
  | first :: body =>
    if first = "const (".toList then (constants? none (first :: body)).map .whole
    else typeItem? first body

/-- The names that declarations declare, in order. The last line of a file ends with a line feed,
which makes an empty paragraph at the end. -/
def declarations? : List Paragraph → Option (List String)
  | [] => none
  | [[]] => some []
  | paragraph :: rest =>
    match item? paragraph with
    | none => none
    | some (.whole names) => (declarations? rest).map (names ++ ·)
    | some (.enumerated name) =>
      match rest with
      | [] => none
      | constants :: rest => do
        let members ← constants? (some name) constants
        return name :: members ++ (← declarations? rest)

/-- Whether a paragraph is the package clause. -/
def isPackageClause : Paragraph → Bool
  | [line] => (line.dropPrefix? "package ".toList).any isWord
  | _ => false

/-- An import path. -/
def path? (text : Line) : Option (List String) := if isQuoted text then some [] else none

/-- Whether a paragraph is an import clause, of one path or of several in brackets. -/
def isImportClause : Paragraph → Bool
  | [] => false
  | [line] => (line.dropPrefix? "import ".toList).any isQuoted
  | first :: body => first = "import (".toList && (body? path? [')'] body).isSome

/-- The names that the paragraphs of a file declare. -/
def file? : List Paragraph → Option (List String)
  | notice :: package :: rest =>
    if notice ≠ [] ∧ notice.all isComment ∧ isPackageClause package then
      match rest with
      | [] => none
      | imports :: others => declarations? (if isImportClause imports then others else rest)
    else none
  | _ => none

/-- The names that a text declares, in order, if it has the layout of generated code. -/
def declaredNames? (code : String) : Option (List String) := file? (Text.paragraphs code)

end HostBindings.Layout
