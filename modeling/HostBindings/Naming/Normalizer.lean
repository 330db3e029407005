import HostBindings.Api.Basic
import HostBindings.Json.Use
import HostBindings.Text.Blank
import HostBindings.Text.Digit
import HostBindings.Text.UpperCase
import HostBindings.Text.WordChar

/-!
# Names in generated code

A name of the host becomes an identifier in three steps. One pass from left to right replaces
separators by a space and corrects the spelling of acronyms, so that a replacement never feeds
another one. The words of the result get an upper-case first letter and are joined. Characters that
no identifier may have are dropped; an empty rest and a leading digit are mended.

## Main definitions

* `Naming.Rule`, `Naming.replace` — the replacement pass
* `Naming.joinWords` — the joined words
* `Naming.Normalizer` — the tables; `Normalizer.core`, `Normalizer.symbol` the identifier of a name
* `Normalizer.baseSymbol`, `Normalizer.stem` — the identifier of an entity, with and without the
  suffix that marks modules
* `Naming.normalize` — the identifier under the default tables
-/

namespace HostBindings.Naming

open Api (Info)

/-- A piece of a name and what stands for it. -/
structure Rule where
  /-- The piece to be replaced; an empty one never applies. -/
  pattern : List Char
  /-- Its replacement. -/
  replacement : List Char
  deriving DecidableEq, Repr

namespace Rule

/-- Whether a rule applies at the start of a text. -/
def applies (rule : Rule) (text : List Char) : Bool :=
  !rule.pattern.isEmpty && rule.pattern.isPrefixOf text

end Rule

/-- The replacement pass. At each place the first rule that applies is taken; `covered` counts the
characters ahead that the last pattern still covers. -/
def replaceFrom (rules : List Rule) (covered : Nat) : List Char → List Char
  | [] => []
  | c :: rest =>
    match covered with
    | k + 1 => replaceFrom rules k rest
    | 0 =>
      match rules.find? (·.applies (c :: rest)) with
      | some rule => rule.replacement ++ replaceFrom rules (rule.pattern.length - 1) rest
      | none => c :: replaceFrom rules 0 rest

/-- A text with every occurrence of a pattern replaced. -/
def replace (rules : List Rule) (text : List Char) : List Char :=
  replaceFrom rules 0 text

/-- A word with its first character in upper case and the rest as it is. -/
def titleWord : List Char → List Char
  | [] => []
  | c :: rest => Text.upper c ++ rest

/-- The words of a text in title case, joined, without the characters that no identifier has. -/
def joinWords (text : List Char) : List Char :=
  ((Text.words text).flatMap titleWord).filter Text.isWordChar

/-- A symbol without one trailing suffix. A symbol that is nothing but the suffix stays. -/
def stripSuffix (symbol suffix : String) : String :=
  if suffix ≠ "" ∧ suffix.toList.isSuffixOf symbol.toList ∧ symbol ≠ suffix then
    String.ofList (symbol.toList.take (symbol.length - suffix.length))
  else symbol

/-- The characters between the words of a name. The no-break space is one of them; the plain space
is none, since words end at blanks anyway, and so it may begin a correction. -/
def defaultSeparators : List String :=
  ["\x60", "\"", ".", "_", "-", "\u00a0", "\t", "(", ")"]

/-- The acronyms whose spelling is corrected. -/
def defaultCorrections : List (String × String) :=
  [("url", "URL"), ("Url", "URL")]

/-- The suffix of the names of modules. -/
def defaultModuleSuffix : String := "Module"

/-- The tables of a normalizer. -/
structure Normalizer where
  /-- The texts between the words of a name. -/
  separators : List String := defaultSeparators
  /-- The pieces of a name that are spelt otherwise, with their spelling. -/
  corrections : List (String × String) := defaultCorrections
  /-- The suffix of the names of modules. -/
  moduleSuffix : String := defaultModuleSuffix
  /-- What stands for a name of which nothing is left. -/
  emptyName : String := "Obj"
  /-- What is put before a leading digit. -/
  digitLead : String := "X"
  deriving DecidableEq, Repr

namespace Normalizer

/-- The rules of the replacement pass: separators first, then corrections. -/
def rules (normalizer : Normalizer) : List Rule :=
  normalizer.separators.map (fun separator => ⟨separator.toList, [' ']⟩) ++
    normalizer.corrections.map fun (piece, spelling) => ⟨piece.toList, spelling.toList⟩

/-- The joined words of a name, with the characters that an identifier may have. -/
def core (normalizer : Normalizer) (name : List Char) : List Char :=
  joinWords (replace normalizer.rules name)

/-- The identifier made of joined words: an empty one and a leading digit are mended. -/
def finish (normalizer : Normalizer) : List Char → String
  | [] => normalizer.emptyName
  | c :: rest =>
    if Text.isDigit c then normalizer.digitLead ++ String.ofList (c :: rest)
    else String.ofList (c :: rest)

/-- The identifier of a name. -/
def symbol (normalizer : Normalizer) (name : String) : String :=
  normalizer.finish (normalizer.core name.toList)

/-- The identifier of an entity. The names of modules get the suffix. -/
def baseSymbol (normalizer : Normalizer) (info : Info) : String :=
  let symbol := normalizer.symbol info.name
  if info.kind = .hostModule then symbol ++ normalizer.moduleSuffix else symbol

/-- The identifier of an entity without the suffix of modules. -/
def stem (normalizer : Normalizer) (info : Info) : String :=
  stripSuffix (normalizer.baseSymbol info) normalizer.moduleSuffix

end Normalizer

/-- The identifier of a name under the default tables. -/
def normalize (name : String) : String :=
  Normalizer.symbol {} name

end HostBindings.Naming
