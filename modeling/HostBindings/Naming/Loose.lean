import HostBindings.Json.Order
import HostBindings.Naming.Normalizer
import HostBindings.Number.Binary64

/-!
# Rules that are no pairs of texts

The tables of a normalizer may be given as JSON values. A rule that is no pair of texts still works
for names in which it is never reached, and has a fault for the rest; this file has the replacement
pass for such rules.

## Main definitions

* `Naming.LooseRule`, `LooseRule.reach` — a rule as it is given, and what it does at a place
* `Naming.replaceLoosely`, `Naming.replaceValue` — the replacement pass
* `Naming.readCorrections` — the corrections that a setting gives
* `Naming.joinValues`, `Naming.stripValue`, `Naming.titleValue` — symbols and words of any kind
-/

namespace HostBindings.Naming

/-- A rule as it is given: the items of what should be a pair. -/
abbrev LooseRule := List Json

namespace LooseRule

/-- The rule that two texts make. -/
def ofPair (pair : String × String) : LooseRule := [.string pair.1, .string pair.2]

/-- The two texts of a proper rule. -/
def toPair? : LooseRule → Option (String × String)
  | [.string piece, .string spelling] => some (piece, spelling)
  | _ => none

/-- What a rule does at the start of a text: nothing, or the length of the piece it replaces and
what stands for it. -/
def reach (rule : LooseRule) (text : List Char) : Except UseFault (Option (Nat × Json)) := do
  let (piece, spelling) ← Json.pairOf rule
  if !piece.truthy then return none
  match piece with
  | .string piece =>
    if piece.toList.isPrefixOf text then return some (piece.length, spelling) else return none
  | other => throw (.asBeginning other.kindName)

/-- What a rule does with a value of another kind than text: nothing, unless it looks for a piece,
which only a text can have at its start. -/
def passOver (kind : String) (rule : LooseRule) : Except UseFault Unit := do
  let (piece, _) ← Json.pairOf rule
  if piece.truthy then throw (.lacks kind "startswith")

end LooseRule

/-- The replacement pass, as a list of pieces. `covered` counts the characters ahead that the last
piece still covers. -/
def loosePieces (rules : List LooseRule) (covered : Nat) :
    List Char → Except UseFault (List Json)
  | [] => .ok []
  | c :: rest =>
    match covered with
    | k + 1 => loosePieces rules k rest
    | 0 => do
      match ← rules.findSomeM? (·.reach (c :: rest)) with
      | some (length, spelling) => return spelling :: (← loosePieces rules (length - 1) rest)
      | none => return .string (String.singleton c) :: (← loosePieces rules 0 rest)

/-- Pieces joined; each of them has to be a text. `place` counts the pieces before. -/
def joinPieces (place : Nat) : List Json → Except UseFault (List Char)
  | [] => .ok []
  | .string text :: rest => do return text.toList ++ (← joinPieces (place + 1) rest)
  | other :: _ => .error (.asPiece place other.kindName)

/-- A text with every occurrence of a rule replaced. -/
def replaceLoosely (rules : List LooseRule) (text : List Char) :
    Except UseFault (List Char) := do
  joinPieces 0 (← loosePieces rules 0 text)

/-- The replacement pass over a name of any kind. Characters are the items of a list, each of which
stays as it is; an object has members, but no first one. -/
def replaceValue (rules : List LooseRule) (name : Json) : Except UseFault (List Char) :=
  match name with
  | .string text => replaceLoosely rules text.toList
  | .array [] | .object [] => .ok []
  | .array items => do
    rules.forM (·.passOver name.kindName)
    joinPieces 0 items
  | .object _ => do
    rules.forM (·.passOver name.kindName)
    throw (.noMember 0)
  | other => .error (.noLength other.kindName)

/-- The corrections that a setting gives; none if it is switched off. -/
def readCorrections (value : Json) : Except UseFault (List LooseRule) := do
  (← value.itemsIfOn).mapM Json.items

/-! ### Symbols and words of any kind -/

/-- The number that a value counts as; nothing if it is an integer beyond all numbers. -/
def binary64? : Json → Option Binary64
  | .float value => some value
  | other => other.integer?.bind Binary64.ofInt?

/-- The sum of two values that count as numbers. -/
def addNumbers (first second : Json) : Except UseFault Json :=
  match first.integer?, second.integer? with
  | some a, some b => .ok (.int (a + b))
  | _, _ =>
    match binary64? first, binary64? second with
    | some a, some b => .ok (.float (a.add b))
    | _, _ => .error .tooLarge

/-- A value with another behind it: texts and lists are joined, numbers are added. -/
def joinValues (first second : Json) : Except UseFault Json :=
  match first, second with
  | .string first, .string second => .ok (.string (first ++ second))
  | .array first, .array second => .ok (.array (first ++ second))
  | .string _, other => .error (.afterText other.kindName)
  | first, second =>
    if first.isNumeric && second.isNumeric then addNumbers first second
    else .error (.notAdded first.kindName second.kindName)

/-- A symbol without one trailing suffix. A suffix that is switched off strips nothing. -/
def stripValue (symbol suffix : Json) : Except UseFault Json :=
  if !suffix.truthy then .ok symbol
  else
    match symbol, suffix with
    | .string symbol, .string suffix => .ok (.string (stripSuffix symbol suffix))
    | .string _, other => .error (.asEnding other.kindName)
    | other, _ => .error (.lacks other.kindName "endswith")

/-- A word with its first character in upper case. -/
def titleValue : Json → Except UseFault Json
  | .string word => .ok (.string (String.ofList (titleWord word.toList)))
  | .array items => .error (.lacks (Json.array items).kindName "upper")
  | .object _ => .error (.unhashable "slice")
  | other => .error (.noParts other.kindName)

end HostBindings.Naming
