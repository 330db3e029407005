import HostBindings.Naming.Normalizer
import HostBindings.Text.Identifier
import HostBindings.Text.LowerCase

/-!
# Package names

What makes a package name of the generated language acceptable, and the package that a block gets
when it is written to a file of its own.

## Main definitions

* `Naming.reservedWords` — the words of the language
* `Naming.PackageFlaw`, `Naming.packageFlaws` — what is wrong with a package name
* `Normalizer.packageName` — the package of a block
-/

namespace HostBindings.Naming

open Api (Block)

/-- The reserved words of the generated language. -/
def reservedWords : List String :=
  ["break", "case", "chan", "const", "continue", "default", "defer", "else", "fallthrough", "for",
    "func", "go", "goto", "if", "import", "interface", "map", "package", "range", "return",
    "select", "struct", "switch", "type", "var"]

/-- What can be wrong with a package name. -/
inductive PackageFlaw where
  | empty
  | notIdentifier (name : String)
  | notLowerCase
  | underscore
  | reserved (name : String)
  deriving DecidableEq, Repr

/-- The wording of a flaw. -/
def PackageFlaw.message : PackageFlaw → String
  | .empty => "Package name cannot be empty"
  | .notIdentifier name => s!"'{name}' is not a valid Go identifier"
  | .notLowerCase => "Package names should be lowercase"
  | .underscore => "Package names should not contain underscores"
  | .reserved name => s!"'{name}' is a Go reserved word"

/-- The flaws of a package name. Nothing else is said of an empty one. -/
def packageFlaws (name : String) : List PackageFlaw :=
  match name.toList with
  | [] => [.empty]
  | c :: rest =>
    let text := c :: rest
    (if Text.isIdentifier text then [] else [.notIdentifier name]) ++
      (if Text.isUpper c then [.notLowerCase] else []) ++
      (if text.contains '_' then [.underscore] else []) ++
      (if reservedWords.contains (Text.lowerCase name) then [.reserved name] else [])

/-- Whether a character stays in the package name of a block. -/
def isPackageChar (c : Char) : Bool :=
  ('a' ≤ c && c ≤ 'z') || ('0' ≤ c && c ≤ '9')

/-- The package name made of a symbol: its lower-case letters and digits, behind an x where it
would be empty or begin with a digit. -/
def packageOfSymbol (symbol : String) : String :=
  match (Text.toLower symbol.toList).filter isPackageChar with
  | [] => "x"
  | c :: rest =>
    if Text.isDigit c then String.ofList ('x' :: c :: rest) else String.ofList (c :: rest)

/-- The package of a block that is written to a file of its own. -/
def Normalizer.packageName (normalizer : Normalizer) (block : Block) : String :=
  packageOfSymbol (normalizer.baseSymbol block.info)

end HostBindings.Naming
