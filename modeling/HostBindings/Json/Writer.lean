import HostBindings.Json.Basic
import HostBindings.Number.Shortest
import HostBindings.Text.Quoted

/-!
# Writing JSON documents

The compact form, all on one line, and the indented form, with every item and member on a line of
its own. Characters outside ASCII stand as they are.

## Main definitions

* `Json.compact` — the one-line form
* `Json.indented` — the form with two spaces for each level
* `Json.depth`, `Json.longestInteger` — what limits the values that can be written
* `Json.WriteError` — why a value cannot be written
-/

namespace HostBindings.Json

/-- A number that is not an integer, as documents write it. -/
def floatLiteral : Binary64 → String
  | .notANumber => "NaN"
  | .infinite negative => if negative then "-Infinity" else "Infinity"
  | value => value.text

mutual
/-- The one-line form of a value. -/
def compact : Json → String
  | .null => "null"
  | .bool value => if value then "true" else "false"
  | .int value => toString value
  | .float value => floatLiteral value
  | .string value => Text.quote value
  | .array items => "[" ++ ", ".intercalate (compactItems items) ++ "]"
  | .object members => "\x7b" ++ ", ".intercalate (compactMembers members) ++ "\x7d"

/-- The one-line forms of the items of an array. -/
def compactItems : List Json → List String
  | [] => []
  | item :: rest => compact item :: compactItems rest

/-- The one-line forms of the members of an object. -/
def compactMembers : Members → List String
  | [] => []
  | (key, value) :: rest => (Text.quote key ++ ": " ++ compact value) :: compactMembers rest
end

/-- A line feed and the indentation of a level. -/
def newLine (level : Nat) : String :=
  "\n" ++ String.ofList (List.replicate (2 * level) ' ')

/-- Parts between brackets: each on a line of its own one level deeper, or nothing at all. -/
def bracketed (opening closing : String) (level : Nat) (parts : List String) : String :=
  if parts.isEmpty then opening ++ closing
  else
    opening ++ newLine (level + 1) ++ ("," ++ newLine (level + 1)).intercalate parts ++
      newLine level ++ closing

mutual
/-- The indented form of a value that stands at a level. -/
def indentedAt (level : Nat) : Json → String
  | .array items => bracketed "[" "]" level (indentedItems (level + 1) items)
  | .object members => bracketed "\x7b" "\x7d" level (indentedMembers (level + 1) members)
  | .null => "null"
  | .bool value => if value then "true" else "false"
  | .int value => toString value
  | .float value => floatLiteral value
  | .string value => Text.quote value

/-- The indented forms of the items of an array. -/
def indentedItems (level : Nat) : List Json → List String
  | [] => []
  | item :: rest => indentedAt level item :: indentedItems level rest

/-- The indented forms of the members of an object. -/
def indentedMembers (level : Nat) : Members → List String
  | [] => []
  | (key, value) :: rest =>
    (Text.quote key ++ ": " ++ indentedAt level value) :: indentedMembers level rest
end

/-- The indented form of a value. -/
def indented (value : Json) : String :=
  indentedAt 0 value

/-! ### Limits -/

mutual
/-- The greatest measure of the parts of a value that are no arrays or objects, and `level` more for
each array or object around it. -/
def measure (scalar : Json → Nat) (level : Nat) : Json → Nat
  | .array items => measureItems scalar level items + level
  | .object members => measureMembers scalar level members + level
  | value => scalar value

/-- The greatest measure of the items of an array. -/
def measureItems (scalar : Json → Nat) (level : Nat) : List Json → Nat
  | [] => 0
  | item :: rest => max (measure scalar level item) (measureItems scalar level rest)

/-- The greatest measure of the members of an object. -/
def measureMembers (scalar : Json → Nat) (level : Nat) : Members → Nat
  | [] => 0
  | (_, value) :: rest => max (measure scalar level value) (measureMembers scalar level rest)
end

/-- The number of arrays and objects that are open at once in a value. -/
def depth (value : Json) : Nat :=
  value.measure (fun _ => 0) 1

/-- The number of digits of an integer. -/
def integerDigits : Json → Nat
  | .int value => Binary64.digitCount value.natAbs
  | _ => 0

/-- The number of digits of the longest integer in a value. -/
def longestInteger (value : Json) : Nat :=
  value.measure integerDigits 0

/-- Why a value cannot be written. -/
inductive WriteError where
  /-- An array or object within more others than the writer takes. -/
  | tooDeep
  /-- An integer with more digits than the writer takes. -/
  | longInteger (limit : Nat)
  deriving DecidableEq, Repr

/-- The wording of an error. -/
def WriteError.message : WriteError → String
  | .tooDeep => "maximum recursion depth exceeded"
  | .longInteger limit =>
    s!"Exceeds the limit ({limit} digits) for integer string conversion; " ++
      "use sys.set_int_max_str_digits() to increase the limit"

end HostBindings.Json
