import HostBindings.Json.Display

/-!
# Uses of values

Settings, names and paths may be given as JSON values, and most uses of a value need a text, a list
or an object. A value of another kind is no error by itself: the fault arises where the value is
used. Each fault names the use that failed and the kind of value it met.

## Main definitions

* `UseFault` — the faults; `UseFault.message` their wording
* `UseFault.category` — what a fault is a fault of
* `Json.items`, `Json.pairItems` — a value gone through item by item
* `Json.hashed` — a value that is looked up
-/

namespace HostBindings

/-- A use of a value that the value does not allow. Kinds are named as in `Json.kindName`. -/
inductive UseFault where
  /-- The value lacks the named operation. -/
  | lacks (kind operation : String)
  /-- The value is put in front of a text. -/
  | beforeText (kind : String)
  /-- The value is put behind a text. -/
  | afterText (kind : String)
  /-- Two values are put one behind the other. -/
  | notAdded (left right : String)
  /-- The value is looked for at the end of a text. -/
  | asEnding (kind : String)
  /-- The value is looked for at the start of a text. -/
  | asBeginning (kind : String)
  /-- The value is looked for within a text. -/
  | asPart (kind : String)
  /-- The value is written. -/
  | asWritten (kind : String)
  /-- The value stands between texts that are joined, at the given place. -/
  | asPiece (place : Nat) (kind : String)
  /-- The value is gone through item by item. -/
  | notIterable (kind : String)
  /-- Something is looked for among the items of the value. -/
  | notContainer (kind : String)
  /-- The length of the value is asked for. -/
  | noLength (kind : String)
  /-- A part of the value is asked for. -/
  | noParts (kind : String)
  /-- The value is the place of an item of a list. -/
  | asIndex (kind : String)
  /-- The value is the place of a character of a text. -/
  | asTextIndex (kind : String)
  /-- A list has no item at a place. -/
  | noItem
  /-- An object has no member that is a place. -/
  | noMember (place : Nat)
  /-- An integer is too large for a sum with another number. -/
  | tooLarge
  /-- Two values are put in order. -/
  | unordered (left right : String)
  /-- The value names a mark. -/
  | asMarkName (kind : String)
  /-- The value is a path. -/
  | asPath (kind : String)
  /-- The value is a level of the log. -/
  | asLevel (kind : String)
  /-- The value is looked up in a set. -/
  | unhashable (kind : String)
  /-- A pair with fewer than two items. -/
  | tooFewItems (count : Nat)
  /-- A pair with more than two items. -/
  | tooManyItems
  /-- A member, counted from zero, that is no pair. -/
  | memberNotPair (index : Nat)
  /-- A member, counted from zero, with a number of items other than two. -/
  | memberLength (index count : Nat)
  /-- A setting that does not exist. -/
  | unknownSetting (key : String)
  deriving DecidableEq, Repr

/-- What a fault is a fault of: the operation asked for, the kind of a value, the value, a place in
it, the key of a member, or the size of a number. -/
inductive FaultCategory where
  | operation
  | kind
  | value
  | place
  | key
  | size
  deriving DecidableEq, Repr

namespace UseFault

/-- The wording of a fault. -/
def message : UseFault → String
  | .lacks kind operation => s!"'{kind}' object has no attribute '{operation}'"
  | .beforeText "list" => "can only concatenate list (not \"str\") to list"
  | .beforeText kind => s!"unsupported operand type(s) for +: '{kind}' and 'str'"
  | .afterText kind => s!"can only concatenate str (not \"{kind}\") to str"
  | .notAdded left right => s!"unsupported operand type(s) for +: '{left}' and '{right}'"
  | .asEnding kind => s!"endswith first arg must be str or a tuple of str, not {kind}"
  | .asBeginning kind => s!"startswith first arg must be str or a tuple of str, not {kind}"
  | .asPart kind => s!"'in <string>' requires string as left operand, not {kind}"
  | .asWritten kind => s!"string argument expected, got '{kind}'"
  | .asPiece place kind => s!"sequence item {place}: expected str instance, {kind} found"
  | .notIterable kind => s!"'{kind}' object is not iterable"
  | .notContainer kind => s!"argument of type '{kind}' is not iterable"
  | .noLength kind => s!"object of type '{kind}' has no len()"
  | .noParts kind => s!"'{kind}' object is not subscriptable"
  | .asIndex kind => s!"list indices must be integers or slices, not {kind}"
  | .asTextIndex kind => s!"string indices must be integers, not '{kind}'"
  | .noItem => "list index out of range"
  | .noMember place => toString place
  | .tooLarge => "int too large to convert to float"
  | .unordered left right =>
    s!"'<' not supported between instances of '{left}' and '{right}'"
  | .asMarkName kind => s!"attribute name must be string, not '{kind}'"
  | .asPath kind => s!"expected str, bytes or os.PathLike object, not {kind}"
  | .asLevel kind => s!"Level not an integer or a valid string: a value of kind {kind}"
  | .unhashable kind => s!"unhashable type: '{kind}'"
  | .tooFewItems count => s!"not enough values to unpack (expected 2, got {count})"
  | .tooManyItems => "too many values to unpack (expected 2)"
  | .memberNotPair index =>
    s!"cannot convert dictionary update sequence element #{index} to a sequence"
  | .memberLength index count =>
    s!"dictionary update sequence element #{index} has length {count}; 2 is required"
  | .unknownSetting key => s!"there is no setting '{key}'"

/-- The category of a fault. -/
def category : UseFault → FaultCategory
  | .lacks .. => .operation
  | .tooFewItems _ | .tooManyItems | .memberLength .. => .value
  | .noItem => .place
  | .noMember _ => .key
  | .tooLarge => .size
  | _ => .kind

end UseFault

namespace Json

/-- Whether a value can be looked up in a set. -/
def isHashable : Json → Bool
  | .array _ | .object _ => false
  | _ => true

/-- The integer that a value counts as. -/
def integer? : Json → Option Int
  | .bool value => some (if value then 1 else 0)
  | .int value => some value
  | _ => none

/-- A value that is looked up in a set. -/
def hashed (value : Json) : Except UseFault Json :=
  if value.isHashable then .ok value else .error (.unhashable value.kindName)

/-- The text that a value is; `operation` is what is asked of it. -/
def textFor (operation : String) : Json → Except UseFault String
  | .string text => .ok text
  | other => .error (.lacks other.kindName operation)

/-- The text of a path. -/
def pathText : Json → Except UseFault String
  | .string text => .ok text
  | other => .error (.asPath other.kindName)

/-- The items of a value that is gone through item by item. -/
def items : Json → Except UseFault (List Json)
  | .array items => .ok items
  | .string text => .ok (text.toList.map fun c => .string (String.singleton c))
  | .object members => .ok (members.map fun member => .string member.1)
  | other => .error (.notIterable other.kindName)

/-- The item at a place of a list, counted from its end where the place is negative. -/
def itemAt (items : List Json) (place : Json) : Except UseFault Json :=
  match place.integer? with
  | none => .error (.asIndex place.kindName)
  | some index =>
    let index := if index < 0 then index + items.length else index
    match if index < 0 then none else items[index.toNat]? with
    | some item => .ok item
    | none => .error .noItem

/-- The two items of a pair. -/
def pairOf : List Json → Except UseFault (Json × Json)
  | [first, second] => .ok (first, second)
  | [] => .error (.tooFewItems 0)
  | [_] => .error (.tooFewItems 1)
  | _ => .error .tooManyItems

/-- The items of an optional list: none if it is switched off. -/
def itemsIfOn (value : Json) : Except UseFault (List Json) :=
  if value.truthy then value.items else .ok []

theorem hashed_string (text : String) : (Json.string text).hashed = .ok (.string text) := rfl

end Json

end HostBindings
